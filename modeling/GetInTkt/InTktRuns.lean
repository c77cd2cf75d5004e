import GetInTkt.LoopBound

/-!
# What every run of `krb5_get_in_tkt` sends

The loop of `krb5_get_in_tkt` builds its request once from the caller's arguments and in
each round only sets the padata and, from `krb5_timeofday`, the nonce; a referral moves the
caller's client and server to the referred realm. So every request that goes out is the
caller's, and `verify_as_reply` compares the reply's nonce with the time of the last round.

Results:
1. `krb5GetInTkt_sends_callers_request`: every request sent carries the caller's options,
   times, enctypes and addresses, names the caller's client and server or both moved to one
   referred realm, and goes to the realm of its client.
2. `krb5GetInTkt_reply_nonce_is_last_round_time`: a reply `krb5_get_in_tkt` returns 0 on
   decrypted to the time of the round that sent the last request.
-/

namespace GetInTkt

/-- The fields of a request that come from the caller's arguments: the options, the times,
the enctypes and the addresses. -/
def KdcReq.callerFields (r : KdcReq) : UInt32 × Int × Int × Int × List Int × List Data :=
  (r.kdcOptions, r.«from», r.till, r.rtime, r.ktype, r.addresses)

/-- A request of a run that started from `base`: the caller's fields of `base`, for the
caller's client and server or, after a referral, for both moved to the referred realm. -/
structure InTktAsks (base : KdcReq) (client server : Principal) (isTgtReq : Bool)
    (request : KdcReq) : Prop where
  callerFields : request.callerFields = base.callerFields
  addressed : (request.client = client ∧ request.server = some server) ∨
    ∃ realm, request.client = { client with realm } ∧
      request.server = some (rewriteServerRealm server realm isTgtReq)

/-- What a run has sent, round by round: requests of the run, each to the realm of its
client, the one of round `i` carrying as nonce the time of round `i`. -/
def SentRounds (envs : Nat → InTktEnv) (base : KdcReq) (client server : Principal)
    (isTgtReq : Bool) (sent : List (KdcReq × Data)) : Prop :=
  (∀ x ∈ sent, x.2 = x.1.client.realm ∧ InTktAsks base client server isTgtReq x.1) ∧
    ∀ i (h : i < sent.length), (envs i).timeofday = .ok sent[i].1.nonce

/-- The state of the loop between rounds: its request is one of the run, and it has sent one
request per round so far. -/
structure InTktRun (envs : Nat → InTktEnv) (base : KdcReq) (client server : Principal)
    (isTgtReq : Bool) (st : InTktState) (sent : List (KdcReq × Data)) : Prop where
  asks : InTktAsks base client server isTgtReq st.request
  rounds : SentRounds envs base client server isTgtReq sent
  count : sent.length = st.loopcount

/-! ## A round -/

section Round

variable {k : Context} {maxHops : Nat} {canonFlag isTgtReq : Bool} {client server : Principal}
  {envs : Nat → InTktEnv} {base request request' : KdcReq} {st : InTktState}
  {sent : List (KdcReq × Data)} {now : Int} {encoded : Data}

/-- `krb5_obtain_padata`, the nonce and the encoding set the padata and, to the time they
read, the nonce; nothing else. -/
theorem inTktPrepare_ok {env : InTktEnv}
    (prepared : inTktPrepare k env st = .ok (request, now, encoded)) :
    env.timeofday = .ok now ∧ ∃ padata, request = { st.request with padata, nonce := now } := by
  unfold inTktPrepare at prepared
  split at prepared
  · cases prepared
  · next padata _ =>
    dsimp only at prepared
    split at prepared
    · cases prepared
    · next timed =>
      split at prepared
      · cases prepared
      · cases prepared
        exact ⟨timed, padata, rfl⟩

theorem InTktAsks.prepared (asks : InTktAsks base client server isTgtReq st.request)
    {env : InTktEnv} (prepared : inTktPrepare k env st = .ok (request, now, encoded)) :
    InTktAsks base client server isTgtReq request := by
  obtain ⟨-, padata, rfl⟩ := inTktPrepare_ok prepared
  exact ⟨asks.callerFields, asks.addressed⟩

/-- A KRB-ERROR the loop goes round on keeps the request, or moves it to a referred realm. -/
theorem InTktAsks.retried {referralCount referralCount' : Nat} {error : KrbError}
    {preauthToUse : Option (List PaData)} (asks : InTktAsks base client server isTgtReq request)
    (retried : inTktOnError k maxHops canonFlag isTgtReq client server referralCount request error =
      .ok (request', referralCount', preauthToUse)) :
    InTktAsks base client server isTgtReq request' := by
  unfold inTktOnError at retried
  dsimp only at retried
  split_ifs at retried
  · split at retried
    · cases retried
    · cases retried
      exact asks
  · split at retried
    · split_ifs at retried
      cases retried
      exact ⟨asks.callerFields, .inr ⟨_, rfl, rfl⟩⟩
    · cases retried

/-- Sending the request of the round keeps what has been sent a run's. -/
theorem InTktRun.send (run : InTktRun envs base client server isTgtReq st sent)
    (prepared : inTktPrepare k (envs st.loopcount) st = .ok (request, now, encoded)) :
    SentRounds envs base client server isTgtReq (sent ++ [(request, request.client.realm)]) := by
  have asks := run.asks.prepared prepared
  have timed := (inTktPrepare_ok prepared).1
  rw [← inTktPrepare_nonce prepared] at timed
  refine ⟨fun x mem => ?_, fun i h => ?_⟩
  · rcases List.mem_append.mp mem with old | new
    · exact run.rounds.1 x old
    · rw [List.mem_singleton.mp new]
      exact ⟨rfl, asks⟩
  · rw [List.length_append, List.length_singleton] at h
    rcases Nat.lt_succ_iff_lt_or_eq.mp h with old | last
    · rw [List.getElem_append_left old]
      exact run.rounds.2 i old
    · subst last
      simp only [List.getElem_append_right (le_refl _), Nat.sub_self, List.getElem_singleton]
      rw [run.count]
      exact timed

/-- A round that goes on with `st'` keeps the run. -/
theorem InTktRun.next (run : InTktRun envs base client server isTgtReq st sent) {st' : InTktState}
    (prepared : inTktPrepare k (envs st.loopcount) st = .ok (request, now, encoded))
    (asks : InTktAsks base client server isTgtReq st'.request)
    (count : st'.loopcount = st.loopcount + 1) :
    InTktRun envs base client server isTgtReq st' (sent ++ [(request, request.client.realm)]) :=
  ⟨asks, run.send prepared, by rw [List.length_append, List.length_singleton, run.count, count]⟩

end Round

/-! ## Every run -/

section Runs

variable {k : Context} {maxHops : Nat} {call : InTktCall} {envs : Nat → InTktEnv}
  {canonFlag isTgtReq : Bool} {client server : Principal} {creds : Creds} {base : KdcReq}

/-- Everything a run of the loop sends is a request of the run, sent in its round. -/
theorem inTktLoop_sentRounds {st : InTktState} {sent : List (KdcReq × Data)}
    (run : InTktRun envs base client server isTgtReq st sent) :
    SentRounds envs base client server isTgtReq
      (inTktLoop k maxHops call envs canonFlag isTgtReq client server creds st sent).sent := by
  induction st, sent using inTktLoop.induct k maxHops call envs canonFlag isTgtReq client server creds with
  | case1 st sent over =>
    rw [inTktLoop_of_limit over]
    exact run.rounds
  | case2 st sent within _ code request held' failed =>
    rw [inTktLoop_of_prepare_error within failed]
    exact run.rounds
  | case3 st sent within _ request now encoded prepared e failed =>
    rw [inTktLoop_of_send_error within prepared failed]
    exact run.send prepared
  | case4 st sent within _ request now encoded prepared error answered code stopped =>
    rw [inTktLoop_of_error_stop within prepared answered stopped]
    exact run.send prepared
  | case5 st sent within _ request now encoded prepared _ error answered request' rc p retried ih =>
    rw [inTktLoop_of_error_retry within prepared answered retried]
    exact ih (run.next prepared ((run.asks.prepared prepared).retried retried) rfl)
  | case6 st sent within _ request now encoded prepared asReply answered e failed =>
    rw [inTktLoop_of_padata_error within prepared answered failed]
    exact run.send prepared
  | case7 st sent within _ request now encoded prepared _ asReply answered asReply' key _ processed
      ih =>
    rw [inTktLoop_of_more within prepared answered processed]
    exact ih (run.next prepared (run.asks.prepared prepared) rfl)
  | case8 st sent within _ request now encoded prepared asReply answered asReply' key doMore
      processed finished =>
    rw [Bool.not_eq_true] at finished
    subst finished
    rw [inTktLoop_of_finish within prepared answered processed, inTktFinish_sent]
    exact run.send prepared

/-- The end of the run returns 0 only on a reply that decrypted to the nonce of its request. -/
theorem inTktFinish_answers {env : InTktEnv} {st : InTktState} {asReply : KdcRep}
    {sent : List (KdcReq × Data)} (ok : (inTktFinish k call env st asReply creds sent).code = 0) :
    ∃ rep enc, (inTktFinish k call env st asReply creds sent).asReply = some rep ∧
      rep.encPart2 = some enc ∧ enc.nonce = st.request.nonce := by
  unfold inTktFinish at ok ⊢
  split at ok
  · next e _ => exact absurd ok e.code_ne_zero
  · next enc decrypted =>
    simp only [decrypted]
    dsimp only at ok ⊢
    split at ok
    · next e _ => exact absurd ok e.code_ne_zero
    · next verified =>
      have same := (kdcrepModified_eq_false_iff.mp (verifyAsReply_ok_iff.mp verified).1).2.2.1
      split at ok
      · next e _ => exact absurd ok e.code_ne_zero
      · next stashed =>
        simp only [stashed]
        exact ⟨_, _, rfl, rfl, by simpa using same.symm⟩

/-- A run of the loop that returns 0 with a reply returns it for the last request it sent. -/
theorem inTktLoop_reply_last {st : InTktState} {sent : List (KdcReq × Data)}
    (ok : (inTktLoop k maxHops call envs canonFlag isTgtReq client server creds st sent).code = 0)
    (held : (inTktLoop k maxHops call envs canonFlag isTgtReq client server creds st sent).asReply.isSome) :
    ∃ rep enc last,
      (inTktLoop k maxHops call envs canonFlag isTgtReq client server creds st sent).asReply = some rep ∧
      rep.encPart2 = some enc ∧
      (inTktLoop k maxHops call envs canonFlag isTgtReq client server creds st sent).sent.getLast? =
        some last ∧ enc.nonce = last.1.nonce := by
  induction st, sent using inTktLoop.induct k maxHops call envs canonFlag isTgtReq client server creds with
  | case1 st sent over =>
    rw [inTktLoop_of_limit over] at ok; exact absurd ok k.errors.krb5GetInTktLoop.code_ne_zero
  | case2 st sent within _ code request held' failed =>
    rw [inTktLoop_of_prepare_error within failed] at ok; exact absurd ok (inTktPrepare_code_ne_zero failed)
  | case3 st sent within _ request now encoded prepared e failed =>
    rw [inTktLoop_of_send_error within prepared failed] at held; cases held
  | case4 st sent within _ request now encoded prepared error answered code stopped =>
    rw [inTktLoop_of_error_stop within prepared answered stopped] at held; cases held
  | case5 st sent within _ request now encoded prepared _ error answered request' rc p retried ih =>
    rw [inTktLoop_of_error_retry within prepared answered retried] at ok held ⊢
    exact ih ok held
  | case6 st sent within _ request now encoded prepared asReply answered e failed =>
    rw [inTktLoop_of_padata_error within prepared answered failed] at ok
    exact absurd ok e.code_ne_zero
  | case7 st sent within _ request now encoded prepared _ asReply answered asReply' key _ processed
      ih =>
    rw [inTktLoop_of_more within prepared answered processed] at ok held ⊢
    exact ih ok held
  | case8 st sent within _ request now encoded prepared asReply answered asReply' key doMore
      processed finished =>
    rw [Bool.not_eq_true] at finished
    subst finished
    rw [inTktLoop_of_finish within prepared answered processed] at ok ⊢
    obtain ⟨rep, enc, held, decrypted, nonce⟩ := inTktFinish_answers ok
    rw [inTktFinish_sent, List.getLast?_append]
    exact ⟨rep, enc, _, held, decrypted, rfl, nonce⟩

end Runs

/-! ## `krb5_get_in_tkt` -/

section GetInTkt

variable {k : Context} {maxHops : Nat} {call : InTktCall} {envs : Nat → InTktEnv}
  {client server : Principal} {creds : Creds}

/-- The request `krb5_get_in_tkt` builds from its arguments, with the addresses it found. -/
def inTktBase (call : InTktCall) (client server : Principal) (creds : Creds)
    (addresses : List Data) : KdcReq :=
  { kdcOptions := call.options, client, server := some server
    «from» := creds.times.starttime, till := creds.times.endtime, rtime := creds.times.renewTill
    nonce := 0, ktype := inTktKtypes call.ktypes, addresses, padata := none }

/-- The run starts on the caller's request, having sent nothing. -/
theorem inTktRun_start (addresses : List Data) {isTgtReq : Bool} :
    InTktRun envs (inTktBase call client server creds addresses) client server isTgtReq
      ⟨inTktBase call client server creds addresses, call.ptypes.map makePreauthList, 0, 0, 0, none, none⟩
      [] :=
  ⟨⟨rfl, .inl ⟨rfl, rfl⟩⟩,
    ⟨fun x mem => absurd mem (List.not_mem_nil x), fun i h => absurd h (Nat.not_lt_zero i)⟩, rfl⟩

/-- `krb5_get_in_tkt` either stops before sending, with a nonzero code, or is the loop from
the caller's request with the addresses it found. -/
theorem krb5GetInTkt_loop_or_stop :
    ((krb5GetInTkt k maxHops call envs client server creds).sent = [] ∧
      (krb5GetInTkt k maxHops call envs client server creds).code ≠ 0) ∨
    ∃ addresses canonFlag, call.addrs.elim (envs 0).osLocaladdr .ok = .ok addresses ∧
      krb5GetInTkt k maxHops call envs client server creds =
        inTktLoop k maxHops call envs canonFlag (tgtIsLocalRealm client server) client server
          { creds with client := some client, server := some server }
          ⟨inTktBase call client server creds addresses, call.ptypes.map makePreauthList, 0, 0, 0, none, none⟩
          [] := by
  unfold krb5GetInTkt
  split
  · exact .inl ⟨rfl, k.errors.krb5InTktRealmMismatch.code_ne_zero⟩
  · dsimp only
    split
    · next e _ => exact .inl ⟨rfl, e.code_ne_zero⟩
    · next addresses listed =>
      exact .inr ⟨addresses, _, by cases h : call.addrs <;> simp_all, rfl⟩

/-- A run of `krb5_get_in_tkt` sends nothing, or only requests of the run it starts on the
caller's request with the addresses it found. -/
theorem krb5GetInTkt_sentRounds :
    (krb5GetInTkt k maxHops call envs client server creds).sent = [] ∨
      ∃ addresses, call.addrs.elim (envs 0).osLocaladdr .ok = .ok addresses ∧
        SentRounds envs (inTktBase call client server creds addresses) client server
          (tgtIsLocalRealm client server) (krb5GetInTkt k maxHops call envs client server creds).sent := by
  rcases krb5GetInTkt_loop_or_stop with ⟨nothing, -⟩ | ⟨addresses, canonFlag, listed, loop⟩
  · exact .inl nothing
  · rw [loop]
    exact .inr ⟨addresses, listed, inTktLoop_sentRounds (inTktRun_start addresses)⟩

/-- Every request `krb5_get_in_tkt` sends, whatever the KDC answers and whatever pre-auth
does, carries the caller's options, times, enctypes and addresses, names the caller's client
and server or, after referrals, both moved to one referred realm, and goes to the realm of
its client. -/
theorem krb5GetInTkt_sends_callers_request :
    ∀ x ∈ (krb5GetInTkt k maxHops call envs client server creds).sent,
      x.2 = x.1.client.realm ∧ x.1.kdcOptions = call.options ∧
      x.1.«from» = creds.times.starttime ∧ x.1.till = creds.times.endtime ∧
      x.1.rtime = creds.times.renewTill ∧ x.1.ktype = inTktKtypes call.ktypes ∧
      call.addrs.elim (envs 0).osLocaladdr .ok = .ok x.1.addresses ∧
      ((x.1.client = client ∧ x.1.server = some server) ∨
        ∃ realm, x.1.client = { client with realm } ∧
          x.1.server = some (rewriteServerRealm server realm (tgtIsLocalRealm client server))) := by
  intro x mem
  rcases krb5GetInTkt_sentRounds with nothing | ⟨addresses, listed, rounds⟩
  · rw [nothing] at mem; cases mem
  · obtain ⟨realm, asks⟩ := rounds.1 x mem
    have fields := asks.callerFields
    simp only [KdcReq.callerFields, inTktBase, Prod.mk.injEq] at fields
    obtain ⟨options, start, till, rtime, ktype, rfl⟩ := fields
    exact ⟨realm, options, start, till, rtime, ktype, listed, asks.addressed⟩

/-- In the dialogue: the one request is the caller's. -/
theorem demo_krb5GetInTkt_sends_callers_request :
    let call := demoInTktCall (demoEnc 1000 ⟨1000, 1000, 2000, 0⟩)
    let envs : Nat → InTktEnv := fun _ => demoInTktEnv [0x6b]
    let o := krb5GetInTkt (demoContext (demoError 0 none) (demoReply demoClient)) 10 call envs
      demoClient demoTgs Creds.empty
    ∃ x ∈ o.sent, x.2 = x.1.client.realm ∧ x.1.kdcOptions = call.options ∧
      x.1.«from» = Creds.empty.times.starttime ∧ x.1.till = Creds.empty.times.endtime ∧
      x.1.rtime = Creds.empty.times.renewTill ∧ x.1.ktype = inTktKtypes call.ktypes ∧
      call.addrs.elim (envs 0).osLocaladdr .ok = .ok x.1.addresses ∧
      ((x.1.client = demoClient ∧ x.1.server = some demoTgs) ∨
        ∃ realm, x.1.client = { demoClient with realm } ∧
          x.1.server = some (rewriteServerRealm demoTgs realm (tgtIsLocalRealm demoClient demoTgs))) :=
  have h : 0 < (krb5GetInTkt (demoContext (demoError 0 none) (demoReply demoClient)) 10
      (demoInTktCall (demoEnc 1000 ⟨1000, 1000, 2000, 0⟩)) (fun _ => demoInTktEnv [0x6b])
      demoClient demoTgs Creds.empty).sent.length := by
    dsimp only [krb5GetInTkt, demoInTktCall]; rw [inTktLoop]; decide
  ⟨_, List.get_mem _ 0 h, krb5GetInTkt_sends_callers_request _ (List.get_mem _ 0 h)⟩

/-- A reply `krb5_get_in_tkt` returns 0 on decrypted to the time that `krb5_timeofday`
returned in the round of the last request sent. -/
theorem krb5GetInTkt_reply_nonce_is_last_round_time {rep : KdcRep}
    (ok : (krb5GetInTkt k maxHops call envs client server creds).code = 0)
    (held : (krb5GetInTkt k maxHops call envs client server creds).asReply = some rep) :
    ∃ enc, rep.encPart2 = some enc ∧
      0 < (krb5GetInTkt k maxHops call envs client server creds).sent.length ∧
      (envs ((krb5GetInTkt k maxHops call envs client server creds).sent.length - 1)).timeofday =
        .ok enc.nonce := by
  rcases krb5GetInTkt_loop_or_stop with ⟨-, failed⟩ | ⟨addresses, canonFlag, -, loop⟩
  · exact absurd ok failed
  rw [loop] at ok held ⊢
  obtain ⟨rep', enc, last, held', decrypted, lastSent, nonce⟩ :=
    inTktLoop_reply_last ok (by rw [held]; rfl)
  obtain rfl : rep' = rep := Option.some.inj (held'.symm.trans held)
  rw [List.getLast?_eq_getElem?] at lastSent
  obtain ⟨inside, atLast⟩ := List.getElem?_eq_some_iff.mp lastSent
  refine ⟨enc, decrypted, by omega, ?_⟩
  rw [(inTktLoop_sentRounds (inTktRun_start addresses)).2 _ inside, atLast, nonce]

/-- In the dialogue: the KDC answers the first request with the AS-REP, at time 1000. -/
theorem demo_krb5GetInTkt_reply_nonce_is_last_round_time :
    let o := krb5GetInTkt (demoContext (demoError 0 none) (demoReply demoClient)) 10
      (demoInTktCall (demoEnc 1000 ⟨1000, 1000, 2000, 0⟩)) (fun _ => demoInTktEnv [0x6b])
      demoClient demoTgs Creds.empty
    let rep := { demoReply demoClient with
      encPart2 := some (demoEnc 1000 ⟨1000, 1000, 2000, 0⟩).repairStarttime }
    o.code = 0 ∧ o.asReply = some rep ∧ ∃ enc, rep.encPart2 = some enc ∧ 0 < o.sent.length ∧
      (demoInTktEnv [0x6b]).timeofday = .ok enc.nonce :=
  have ok : (krb5GetInTkt (demoContext (demoError 0 none) (demoReply demoClient)) 10
      (demoInTktCall (demoEnc 1000 ⟨1000, 1000, 2000, 0⟩)) (fun _ => demoInTktEnv [0x6b])
      demoClient demoTgs Creds.empty).code = 0 := by
    dsimp only [krb5GetInTkt, demoInTktCall]; rw [inTktLoop]; decide
  have held : (krb5GetInTkt (demoContext (demoError 0 none) (demoReply demoClient)) 10
      (demoInTktCall (demoEnc 1000 ⟨1000, 1000, 2000, 0⟩)) (fun _ => demoInTktEnv [0x6b])
      demoClient demoTgs Creds.empty).asReply = some { demoReply demoClient with
        encPart2 := some (demoEnc 1000 ⟨1000, 1000, 2000, 0⟩).repairStarttime } := by
    dsimp only [krb5GetInTkt, demoInTktCall]; rw [inTktLoop]; decide
  ⟨ok, held, krb5GetInTkt_reply_nonce_is_last_round_time ok held⟩

end GetInTkt

end GetInTkt
