import GetInTkt.Success

/-!
# How many requests `krb5_get_in_tkt` sends

The loop of `krb5_get_in_tkt` checks `loopcount++ > MAX_IN_TKT_LOOPS` at the top of each
round, with `loopcount` from 0, and sends in every round it lets through. The rounds with
`loopcount` 0 to 16 all pass the check, so up to `MAX_IN_TKT_LOOPS + 1` AS-REQs go out; only
the round after them returns `KRB5_GET_IN_TKT_LOOP`. The step API counts with `>=` instead.
Referrals are bounded as intended: the KDC realm changes only on a referral, and
`++referral_count > KRB5_REFERRAL_MAXHOPS` stops the loop before one more is followed.

Results:
1. `krb5GetInTkt_sent_bounds`: over every run, at most `MAX_IN_TKT_LOOPS + 1` requests are
   sent, and the realm they go to changes at most `KRB5_REFERRAL_MAXHOPS` times.
2. `get_in_tkt_sends_past_max_loops`: a KDC that answers every request with
   PREAUTH_REQUIRED gets exactly `MAX_IN_TKT_LOOPS + 1` of them before the loop error.
-/

namespace GetInTkt

/-- The number of times a list of realms changes from one entry to the next. -/
def realmChanges : List Data → Nat
  | r :: s :: rest => (if r = s then 0 else 1) + realmChanges (s :: rest)
  | _ => 0

theorem realmChanges_cons_cons (r s : Data) (rest : List Data) :
    realmChanges (r :: s :: rest) = (if r = s then 0 else 1) + realmChanges (s :: rest) := rfl

theorem realmChanges_append_pair (l : List Data) (a b : Data) :
    realmChanges (l ++ [a, b]) = realmChanges (l ++ [a]) + if a = b then 0 else 1 := by
  induction l with
  | nil => simp only [List.nil_append, realmChanges_cons_cons, realmChanges]; omega
  | cons x l ih =>
    cases l with
    | nil => simp only [List.nil_append, List.singleton_append, realmChanges_cons_cons, realmChanges]; omega
    | cons y l =>
      simp only [List.cons_append, realmChanges_cons_cons] at ih ⊢
      omega

theorem realmChanges_le_append (l : List Data) (a : Data) :
    realmChanges l ≤ realmChanges (l ++ [a]) := by
  induction l with
  | nil => exact Nat.zero_le _
  | cons x l ih =>
    cases l with
    | nil => exact Nat.zero_le _
    | cons y l =>
      simp only [List.cons_append, realmChanges_cons_cons] at ih ⊢
      omega

/-! ## What a round keeps -/

section Frame

variable {k : Context} {maxHops : Nat} {canonFlag isTgtReq : Bool} {client server : Principal}
  {referralCount referralCount' : Nat} {request request' : KdcReq} {error : KrbError}
  {preauthToUse : Option (List PaData)}

/-- `krb5_obtain_padata`, the nonce and the encoding leave the request's client. -/
theorem inTktPrepare_client {env : InTktEnv} {st : InTktState} {now : Int} {encoded : Data}
    (prepared : inTktPrepare k env st = .ok (request, now, encoded)) :
    request.client = st.request.client := by
  unfold inTktPrepare at prepared
  split at prepared
  · cases prepared
  · dsimp only at prepared
    split at prepared
    · cases prepared
    · split at prepared
      · cases prepared
      · cases prepared; rfl

/-- A KRB-ERROR the loop goes round on either keeps the client and the referral count, or
is a referral within `maxHops`. -/
theorem inTktOnError_referral_bound
    (retried : inTktOnError k maxHops canonFlag isTgtReq client server referralCount request error =
      .ok (request', referralCount', preauthToUse)) :
    (request'.client = request.client ∧ referralCount' = referralCount) ∨
      (referralCount' = referralCount + 1 ∧ referralCount' ≤ maxHops) := by
  unfold inTktOnError at retried
  dsimp only at retried
  split_ifs at retried with preauth wrongRealm
  · split at retried
    · cases retried
    · cases retried; exact .inl ⟨rfl, rfl⟩
  · split at retried
    · split_ifs at retried with over
      cases retried
      exact .inr ⟨rfl, by omega⟩
    · cases retried

theorem inTktFinish_sent {call : InTktCall} {env : InTktEnv} {st : InTktState} {asReply : KdcRep}
    {creds : Creds} {sent : List (KdcReq × Data)} :
    (inTktFinish k call env st asReply creds sent).sent = sent := by
  unfold inTktFinish
  split
  · rfl
  · dsimp only
    split
    · rfl
    · split <;> rfl

end Frame

/-! ## Every run -/

/-- The bounds a run keeps on the realms: the changes so far, counting one to the realm of
the request of the next round, are referrals followed, and those are at most `maxHops`. -/
def SentWithin (maxHops : Nat) (st : InTktState) (sent : List (KdcReq × Data)) : Prop :=
  realmChanges (sent.map (·.2) ++ [st.request.client.realm]) ≤ st.referralCount ∧
    st.referralCount ≤ maxHops

section Bounds

variable {k : Context} {maxHops : Nat} {call : InTktCall} {envs : Nat → InTktEnv}
  {canonFlag isTgtReq : Bool} {client server : Principal} {creds : Creds} {st : InTktState}
  {sent : List (KdcReq × Data)} {request : KdcReq}

theorem SentWithin.changes_le (within : SentWithin maxHops st sent) :
    realmChanges (sent.map (·.2)) ≤ maxHops :=
  (realmChanges_le_append _ _).trans (within.1.trans within.2)

/-- A round that sends a request for the current client and stops keeps both bounds. -/
theorem SentWithin.send_bounds (within : SentWithin maxHops st sent)
    (notOver : ¬st.loopcount > maxInTktLoops) (same : request.client = st.request.client) :
    (sent ++ [(request, request.client.realm)]).length ≤
        sent.length + (maxInTktLoops + 1 - st.loopcount) ∧
      realmChanges ((sent ++ [(request, request.client.realm)]).map (·.2)) ≤ maxHops := by
  refine ⟨?_, by simpa [same] using within.1.trans within.2⟩
  rw [List.length_append, List.length_singleton]
  omega

/-- A round that sends a request and goes on leaves one round fewer. -/
theorem sent_length_of_round {n : Nat} {x : KdcReq × Data}
    (notOver : ¬st.loopcount > maxInTktLoops)
    (rest : n ≤ (sent ++ [x]).length + (maxInTktLoops + 1 - (st.loopcount + 1))) :
    n ≤ sent.length + (maxInTktLoops + 1 - st.loopcount) := by
  rw [List.length_append, List.length_singleton] at rest
  omega

/-- A round that goes on with the same client and referral count keeps the bounds. -/
theorem SentWithin.of_same (within : SentWithin maxHops st sent)
    (same : request.client = st.request.client) {st' : InTktState}
    (kept : st'.request.client = st.request.client) (count : st'.referralCount = st.referralCount) :
    SentWithin maxHops st' (sent ++ [(request, request.client.realm)]) := by
  unfold SentWithin at within ⊢
  simp only [List.map_append, List.map_cons, List.map_nil, List.append_assoc,
    List.singleton_append, same, kept, count] at within ⊢
  rw [realmChanges_append_pair, if_pos rfl, Nat.add_zero]
  exact within

/-- A referral within `maxHops` keeps the bounds, whatever realm it moves to. -/
theorem SentWithin.of_referral (within : SentWithin maxHops st sent)
    (same : request.client = st.request.client) {st' : InTktState}
    (count : st'.referralCount = st.referralCount + 1) (hops : st'.referralCount ≤ maxHops) :
    SentWithin maxHops st' (sent ++ [(request, request.client.realm)]) := by
  unfold SentWithin at within ⊢
  simp only [List.map_append, List.map_cons, List.map_nil, List.append_assoc,
    List.singleton_append, same] at within ⊢
  rw [realmChanges_append_pair]
  exact ⟨by split <;> omega, hops⟩

/-- From a state within the bounds, the loop sends at most one request per round left, and
the realm changes at most `maxHops` times. -/
theorem inTktLoop_sent_bounds (within : SentWithin maxHops st sent) :
    let o := inTktLoop k maxHops call envs canonFlag isTgtReq client server creds st sent
    o.sent.length ≤ sent.length + (maxInTktLoops + 1 - st.loopcount) ∧
      realmChanges (o.sent.map (·.2)) ≤ maxHops := by
  induction st, sent using inTktLoop.induct k maxHops call envs canonFlag isTgtReq client server creds with
  | case1 st sent over =>
    rw [inTktLoop_of_limit over]
    exact ⟨Nat.le_add_right _ _, within.changes_le⟩
  | case2 st sent notOver _ code request held failed =>
    rw [inTktLoop_of_prepare_error notOver failed]
    exact ⟨Nat.le_add_right _ _, within.changes_le⟩
  | case3 st sent notOver _ request now encoded prepared e failed =>
    rw [inTktLoop_of_send_error notOver prepared failed]
    exact within.send_bounds notOver (inTktPrepare_client prepared)
  | case4 st sent notOver _ request now encoded prepared error answered code stopped =>
    rw [inTktLoop_of_error_stop notOver prepared answered stopped]
    exact within.send_bounds notOver (inTktPrepare_client prepared)
  | case5 st sent notOver _ request now encoded prepared _ error answered request' rc p retried ih =>
    rw [inTktLoop_of_error_retry notOver prepared answered retried]
    have same := inTktPrepare_client prepared
    obtain ⟨length, changes⟩ := ih (by
      rcases inTktOnError_referral_bound retried with ⟨kept, count⟩ | ⟨count, hops⟩
      · exact within.of_same same (kept.trans same) count
      · exact within.of_referral same count hops)
    exact ⟨sent_length_of_round notOver length, changes⟩
  | case6 st sent notOver _ request now encoded prepared asReply answered e failed =>
    rw [inTktLoop_of_padata_error notOver prepared answered failed]
    exact within.send_bounds notOver (inTktPrepare_client prepared)
  | case7 st sent notOver _ request now encoded prepared _ asReply answered asReply' key _ processed
      ih =>
    rw [inTktLoop_of_more notOver prepared answered processed]
    have same := inTktPrepare_client prepared
    obtain ⟨length, changes⟩ := ih (within.of_same same same rfl)
    exact ⟨sent_length_of_round notOver length, changes⟩
  | case8 st sent notOver _ request now encoded prepared asReply answered asReply' key doMore
      processed finished =>
    rw [Bool.not_eq_true] at finished
    subst finished
    rw [inTktLoop_of_finish notOver prepared answered processed]
    dsimp only
    rw [inTktFinish_sent]
    exact within.send_bounds notOver (inTktPrepare_client prepared)

/-- Over every run of `krb5_get_in_tkt`, whatever the KDC answers and whatever pre-auth
does, at most `MAX_IN_TKT_LOOPS + 1` requests are sent, and the realm they go to changes at
most `maxHops` times. -/
theorem krb5GetInTkt_sent_bounds :
    (krb5GetInTkt k maxHops call envs client server creds).sent.length ≤ maxInTktLoops + 1 ∧
      realmChanges ((krb5GetInTkt k maxHops call envs client server creds).sent.map (·.2)) ≤
        maxHops := by
  unfold krb5GetInTkt
  split
  · exact ⟨Nat.zero_le _, Nat.zero_le _⟩
  · dsimp only
    split
    · exact ⟨Nat.zero_le _, Nat.zero_le _⟩
    · exact inTktLoop_sent_bounds ⟨Nat.le_refl _, Nat.zero_le _⟩

end Bounds

/-! ## A KDC that always asks for pre-auth -/

/-- A KDC that answers every AS-REQ with the KRB-ERROR `error`, PREAUTH_REQUIRED with
e-data the library decodes, while the library and `krb5_obtain_padata` succeed around it. -/
structure DemandsPreauth (k : Context) (envs : Nat → InTktEnv) (error : KrbError) : Prop where
  localaddr : ∃ addresses, (envs 0).osLocaladdr = .ok addresses
  obtained : ∀ n preauthToUse request, ∃ padata,
    (envs n).obtainPadata preauthToUse request = .ok padata
  timed : ∀ n, ∃ now, (envs n).timeofday = .ok now
  encoded : ∀ request, ∃ packet, k.encodeKrb5AsReq request = .ok packet
  answered : ∀ n packet realm,
    sendAsRequest k ((envs n).sendtoKdc packet realm) packet = .ok (.krbError error)
  required : error.error = kdcErrPreauthRequired
  eData : error.eData.length > 0
  decoded : ∃ padata, k.decodeKrb5PadataSequence error.eData = .ok padata

section Demands

variable {k : Context} {maxHops : Nat} {call : InTktCall} {envs : Nat → InTktEnv}
  {canonFlag isTgtReq : Bool} {client server : Principal} {creds : Creds} {error : KrbError}

theorem DemandsPreauth.prepared (kdc : DemandsPreauth k envs error) (n : Nat) (st : InTktState) :
    ∃ request now packet, inTktPrepare k (envs n) st = .ok (request, now, packet) := by
  obtain ⟨padata, obtained⟩ := kdc.obtained n st.preauthToUse st.request
  obtain ⟨now, timed⟩ := kdc.timed n
  obtain ⟨packet, encoded⟩ := kdc.encoded { st.request with padata, nonce := now }
  exact ⟨{ st.request with padata, nonce := now }, now, packet,
    by simp only [inTktPrepare, obtained, timed, encoded]⟩

theorem DemandsPreauth.retried (kdc : DemandsPreauth k envs error) (referralCount : Nat)
    (request : KdcReq) :
    ∃ preauthToUse, inTktOnError k maxHops canonFlag isTgtReq client server referralCount request
      error = .ok (request, referralCount, preauthToUse) := by
  obtain ⟨padata, decoded⟩ := kdc.decoded
  exact ⟨_, by rw [inTktOnError, if_pos ⟨kdc.required, kdc.eData⟩, decoded]⟩

/-- Against such a KDC, the loop sends one request in each round left and then returns
`KRB5_GET_IN_TKT_LOOP`. -/
theorem inTktLoop_of_demandsPreauth (kdc : DemandsPreauth k envs error) (rounds : Nat) :
    ∀ st sent, st.loopcount + rounds = maxInTktLoops + 1 →
      let o := inTktLoop k maxHops call envs canonFlag isTgtReq client server creds st sent
      o.code = k.errors.krb5GetInTktLoop.code ∧ o.sent.length = sent.length + rounds := by
  induction rounds with
  | zero =>
    intro st sent last
    rw [inTktLoop_of_limit (by omega)]
    exact ⟨rfl, rfl⟩
  | succ rounds ih =>
    intro st sent left
    obtain ⟨request, now, packet, prepared⟩ := kdc.prepared st.loopcount st
    obtain ⟨preauthToUse, retried⟩ := @DemandsPreauth.retried k maxHops envs canonFlag isTgtReq
      client server error kdc st.referralCount request
    rw [inTktLoop_of_error_retry (by omega) prepared (kdc.answered _ _ _) retried]
    obtain ⟨code, length⟩ := ih
      { st with request, loopcount := st.loopcount + 1, timeNow := now, preauthToUse, asReply := none }
      (sent ++ [(request, request.client.realm)])
      (show st.loopcount + 1 + rounds = maxInTktLoops + 1 by omega)
    refine ⟨code, ?_⟩
    rw [length, List.length_append, List.length_singleton]
    omega

/-- A KDC that answers every AS-REQ with PREAUTH_REQUIRED gets `MAX_IN_TKT_LOOPS + 1`
requests from `krb5_get_in_tkt`, one more than the limit, before the loop error: the check
`loopcount++ > MAX_IN_TKT_LOOPS` lets the rounds with `loopcount` 0 to `MAX_IN_TKT_LOOPS`
through. -/
theorem get_in_tkt_sends_past_max_loops {k : Context} {maxHops : Nat} {call : InTktCall}
    {envs : Nat → InTktEnv} {client server : Principal} {creds : Creds} {error : KrbError}
    (sameRealm : realmCompare client server = true) (kdc : DemandsPreauth k envs error) :
    let o := krb5GetInTkt k maxHops call envs client server creds
    o.code = k.errors.krb5GetInTktLoop.code ∧ o.sent.length = maxInTktLoops + 1 := by
  unfold krb5GetInTkt
  rw [if_neg (by rw [sameRealm]; decide)]
  dsimp only
  split
  · next e failed =>
    obtain ⟨addresses, listed⟩ := kdc.localaddr
    split at failed
    · cases failed
    · rw [listed] at failed; cases failed
  · exact inTktLoop_of_demandsPreauth kdc (maxInTktLoops + 1) _ [] (Nat.zero_add _)

/-- In the dialogue's library, a KDC answering every request with the same PREAUTH_REQUIRED
error: 17 requests go out. -/
theorem demo_get_in_tkt_sends_past_max_loops :
    let k := demoContext (demoError kdcErrPreauthRequired none) (demoReply demoClient)
    let envs : Nat → InTktEnv := fun _ => demoInTktEnv [0x7e]
    realmCompare demoClient demoTgs = true ∧
      DemandsPreauth k envs (demoError kdcErrPreauthRequired none) ∧
      let o := krb5GetInTkt k 10 (demoInTktCall (demoEnc 1000 ⟨1000, 1000, 2000, 0⟩)) envs
        demoClient demoTgs Creds.empty
      o.code = k.errors.krb5GetInTktLoop.code ∧ o.sent.length = maxInTktLoops + 1 :=
  have kdc : DemandsPreauth (demoContext (demoError kdcErrPreauthRequired none)
      (demoReply demoClient)) (fun _ => demoInTktEnv [0x7e]) (demoError kdcErrPreauthRequired none) :=
    ⟨⟨[], rfl⟩, fun _ _ request => ⟨request.padata, rfl⟩, fun _ => ⟨1000, rfl⟩,
      fun _ => ⟨[0x6a], rfl⟩, fun _ _ _ => rfl, rfl, by decide, ⟨some [], rfl⟩⟩
  ⟨rfl, kdc, get_in_tkt_sends_past_max_loops rfl kdc⟩

end Demands

end GetInTkt
