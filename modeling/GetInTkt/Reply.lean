import GetInTkt.Basic

/-!
# Decrypting, verifying and stashing an AS-REP

`decrypt_as_reply`, `verify_as_reply` and `stash_as_reply`, which both drivers run, in
this order, on the reply they accept. The results here are what the drivers' success
theorems are built from:

* `verifyAsReply_ok_iff`: the reply passes exactly when none of the checks of the big
  condition fires and the clock check passes; the starttime repair is applied first.
* `verifyAsReply_ok_timesAccepted`: the times of an accepted reply satisfy
  `TimesAccepted`, the bounds the verifier puts on them and no others.
* `verifyAsReply_ok_server`: the reply's server agrees with its ticket's server.
* `stashAsReply_ok_spec`: on success the credential carries the reply's times, flags and key,
  and the reply's client and server where the caller left them NULL.
-/

namespace GetInTkt

/-! ## `decrypt_as_reply` -/

/-- The key `decrypt_as_reply` decrypts with: the caller's `key`, or, where that is NULL,
`key_proc` (applied to the enctype and the salt). -/
inductive DecryptKey
  | key (key : Keyblock)
  | keyProc (keyProc : Int → Data → Except Failure Keyblock)

/-- `decrypt_as_reply`, returning the decrypted part. A reply that is already decrypted is
left alone. Otherwise `key_proc` is given the default salt of the reply's client (the
canonical name, which the KDC salts with) and `decrypt_proc` decrypts with the key. -/
def decryptAsReply (k : Context) (key : DecryptKey)
    (decryptProc : Keyblock → KdcRep → Except Failure EncKdcRepPart) (asReply : KdcRep) :
    Except Failure EncKdcRepPart :=
  match asReply.encPart2 with
  | some enc => .ok enc
  | none =>
    let decryptKey : Except Failure Keyblock := match key with
      | .key key => .ok key
      | .keyProc keyProc => keyProc asReply.encPart.enctype (k.principal2salt asReply.client)
    match decryptKey with
    | .error e => .error e
    | .ok decryptKey => decryptProc decryptKey asReply

/-! ## `verify_as_reply` -/

/-- The decrypted part with its starttime defaulted to the authtime when it is 0, the
repair `verify_as_reply` makes before it checks anything. -/
def EncKdcRepPart.repairStarttime (enc : EncKdcRepPart) : EncKdcRepPart :=
  if enc.times.starttime = 0 then { enc with times := { enc.times with starttime := enc.times.authtime } }
  else enc

/-- The AS-REP server name may change only when canonicalization was requested and both
the requested and the returned server are TGS principals. A NULL request server, which
the code would dereference, counts as a mismatch here and below. -/
def canonOk (request : KdcReq) (enc : EncKdcRepPart) : Bool :=
  request.canonFlag && request.server.any isTgsPrinc && isTgsPrinc enc.server

/-- The condition under which `verify_as_reply` returns `KRB5_KDCREP_MODIFIED`, one
disjunct per line of the source. -/
def kdcrepModified (request : KdcReq) (asReply : KdcRep) (enc : EncKdcRepPart) : Bool :=
  (!canonOk request enc &&
      (!principalCompare asReply.client request.client ||
        !request.server.any (principalCompare enc.server)))
    || !principalCompare enc.server asReply.ticket.server
    || request.nonce != enc.nonce
    || (hasFlag request.kdcOptions kdcOptPostdated && request.«from» != 0 &&
        request.«from» != enc.times.starttime)
    || (request.till != 0 && decide (enc.times.endtime > request.till))
    || (hasFlag request.kdcOptions kdcOptRenewable && request.rtime != 0 &&
        decide (enc.times.renewTill > request.rtime))
    || (hasFlag request.kdcOptions kdcOptRenewableOk && !hasFlag request.kdcOptions kdcOptRenewable &&
        hasFlag enc.flags kdcOptRenewable && request.till != 0 &&
        decide (enc.times.renewTill > request.till))

/-- `verify_as_reply` on the decrypted part `enc` of `asReply`. It returns the repaired
decrypted part, which the code writes back into the reply whatever the outcome, and the
result: `KRB5_KDCREP_MODIFIED`, then either the result of `krb5_set_real_time` (with
`SYNC_KDCTIME`) or `KRB5_KDCREP_SKEW` when no start time was requested and the reply's
starttime is more than the clock skew away from `timeNow`. The two times are `krb5_int32`s
subtracted in `int`, which wraps, before `labs`. -/
def verifyAsReply (k : Context) (setRealTime : Int → Except Failure Unit) (timeNow : Int)
    (request : KdcReq) (asReply : KdcRep) (enc : EncKdcRepPart) :
    EncKdcRepPart × Except Failure Unit :=
  let enc := enc.repairStarttime
  if kdcrepModified request asReply enc then (enc, .error k.errors.krb5KdcrepModified)
  else if k.syncKdctime then (enc, setRealTime enc.times.authtime)
  else if request.«from» = 0 ∧
      ((toInt32 (enc.times.starttime - timeNow)).natAbs : Int) > k.clockskew then
    (enc, .error k.errors.krb5KdcrepSkew)
  else (enc, .ok ())

section Verify

variable {k : Context} {setRealTime : Int → Except Failure Unit} {timeNow : Int}
  {request : KdcReq} {asReply : KdcRep} {enc : EncKdcRepPart}

@[simp] theorem verifyAsReply_fst :
    (verifyAsReply k setRealTime timeNow request asReply enc).1 = enc.repairStarttime := by
  dsimp only [verifyAsReply]
  split_ifs <;> rfl

theorem verifyAsReply_ok_iff :
    (verifyAsReply k setRealTime timeNow request asReply enc).2 = .ok () ↔
      kdcrepModified request asReply enc.repairStarttime = false ∧
      (k.syncKdctime = true → setRealTime enc.repairStarttime.times.authtime = .ok ()) ∧
      (k.syncKdctime = false → request.«from» = 0 →
        ((toInt32 (enc.repairStarttime.times.starttime - timeNow)).natAbs : Int) ≤ k.clockskew) := by
  dsimp only [verifyAsReply]
  split_ifs with modified sync skew
  · simp [modified]
  · simp [modified, sync]
  · simp only [reduceCtorEq, false_iff]
    simp_all
  · simp_all

/-- The bounds that `verify_as_reply` puts on the times `t` of a reply it accepts, with
ticket flags `flags`, for a request sent at `timeNow`; the clock skew is measured on the
difference as the `int` subtraction wraps it. -/
structure TimesAccepted (k : Context) (request : KdcReq) (timeNow : Int) (flags : UInt32)
    (t : TicketTimes) : Prop where
  postdated : hasFlag request.kdcOptions kdcOptPostdated = true → request.«from» ≠ 0 →
    t.starttime = request.«from»
  endtime_le_till : request.till ≠ 0 → t.endtime ≤ request.till
  renewTill_le_rtime : hasFlag request.kdcOptions kdcOptRenewable = true → request.rtime ≠ 0 →
    t.renewTill ≤ request.rtime
  renewTill_le_till : hasFlag request.kdcOptions kdcOptRenewableOk = true →
    hasFlag request.kdcOptions kdcOptRenewable = false → hasFlag flags kdcOptRenewable = true →
    request.till ≠ 0 → t.renewTill ≤ request.till
  skew : k.syncKdctime = false → request.«from» = 0 →
    ((toInt32 (t.starttime - timeNow)).natAbs : Int) ≤ k.clockskew

theorem kdcrepModified_eq_false_iff {enc : EncKdcRepPart} :
    kdcrepModified request asReply enc = false ↔
      (canonOk request enc = false → principalCompare asReply.client request.client = true ∧
        request.server.any (principalCompare enc.server) = true) ∧
      principalCompare enc.server asReply.ticket.server = true ∧
      request.nonce = enc.nonce ∧
      (hasFlag request.kdcOptions kdcOptPostdated = true → request.«from» ≠ 0 →
        request.«from» = enc.times.starttime) ∧
      (request.till ≠ 0 → enc.times.endtime ≤ request.till) ∧
      (hasFlag request.kdcOptions kdcOptRenewable = true → request.rtime ≠ 0 →
        enc.times.renewTill ≤ request.rtime) ∧
      (hasFlag request.kdcOptions kdcOptRenewableOk = true →
        hasFlag request.kdcOptions kdcOptRenewable = false → hasFlag enc.flags kdcOptRenewable = true →
        request.till ≠ 0 → enc.times.renewTill ≤ request.till) := by
  simp only [kdcrepModified, Bool.or_eq_false_iff, Bool.and_eq_false_imp, Bool.and_eq_true, and_imp,
    Bool.not_eq_false', bne_eq_false_iff_eq, decide_eq_false_iff_not, not_lt, Bool.not_eq_true',
    bne_iff_ne, ne_eq, and_assoc]

theorem verifyAsReply_ok_timesAccepted
    (ok : (verifyAsReply k setRealTime timeNow request asReply enc).2 = .ok ()) :
    TimesAccepted k request timeNow enc.repairStarttime.flags enc.repairStarttime.times := by
  obtain ⟨modified, -, skew⟩ := verifyAsReply_ok_iff.mp ok
  obtain ⟨-, -, -, postdated, till, rtime, renewOk⟩ := kdcrepModified_eq_false_iff.mp modified
  exact ⟨fun p f => (postdated p f).symm, till, rtime, renewOk, skew⟩

theorem verifyAsReply_ok_server
    (ok : (verifyAsReply k setRealTime timeNow request asReply enc).2 = .ok ()) :
    principalCompare enc.repairStarttime.server asReply.ticket.server = true :=
  (kdcrepModified_eq_false_iff.mp (verifyAsReply_ok_iff.mp ok).1).2.1

/-- Without canonicalization an accepted reply names the requested client and server. -/
theorem verifyAsReply_ok_names
    (ok : (verifyAsReply k setRealTime timeNow request asReply enc).2 = .ok ())
    (notCanon : canonOk request enc.repairStarttime = false) :
    principalCompare asReply.client request.client = true ∧
      request.server.any (principalCompare enc.repairStarttime.server) = true :=
  (kdcrepModified_eq_false_iff.mp (verifyAsReply_ok_iff.mp ok).1).1 notCanon

end Verify

/-! ## `stash_as_reply` -/

/-- The cleanup of `stash_as_reply` on failure: the key contents are zeroed and freed, the
ticket and the addresses freed. What was already copied into the other fields stays. -/
def Creds.scrub (creds : Creds) : Creds :=
  { creds with keyblock := { creds.keyblock with contents := [] }, ticket := [], addresses := [] }

/-- The credential `stash_as_reply` fills in from the decrypted part `enc`, with the ticket
encoded as `packet`; its client and server are not touched yet. -/
def stashFill (creds : Creds) (enc : EncKdcRepPart) (packet : Data) : Creds :=
  { creds with
    keyblock := enc.session, times := enc.times, isSkey := false, ticketFlags := enc.flags
    addresses := enc.caddrs, secondTicket := [], ticket := packet }

/-- `stash_as_reply`: fill `creds` from the decrypted part `enc` of `asReply` and store it
in the cache, when there is one (`ccStore`, for `krb5_cc_store_cred`). The client and
server are taken from the reply only where `creds` has none, and only once everything
else has succeeded, so the cache sees the credential before they are filled in. -/
def stashAsReply (k : Context) (ccStore : Option (Creds → Except Failure Unit))
    (asReply : KdcRep) (enc : EncKdcRepPart) (creds : Creds) : Creds × Except Failure Unit :=
  match k.encodeKrb5Ticket asReply.ticket with
  | .error e => ((stashFill creds enc creds.ticket).scrub, .error e)
  | .ok packet =>
    let filled := stashFill creds enc packet
    let stored : Except Failure Unit := match ccStore with
      | some store => store filled
      | none => .ok ()
    match stored with
    | .error e => (filled.scrub, .error e)
    | .ok () => ({ filled with
      client := creds.client <|> some asReply.client, server := creds.server <|> some enc.server },
      .ok ())

section Stash

variable {k : Context} {ccStore : Option (Creds → Except Failure Unit)} {asReply : KdcRep}
  {enc : EncKdcRepPart} {creds : Creds}

/-- On success the ticket was encoded, the cache (if any) accepted the filled credential,
and the result is that credential with the reply's names where `creds` had none. -/
theorem stashAsReply_ok_spec (ok : (stashAsReply k ccStore asReply enc creds).2 = .ok ()) :
    ∃ packet, k.encodeKrb5Ticket asReply.ticket = .ok packet ∧
      (∀ store, ccStore = some store → store (stashFill creds enc packet) = .ok ()) ∧
      (stashAsReply k ccStore asReply enc creds).1 =
        { stashFill creds enc packet with
          client := creds.client <|> some asReply.client
          server := creds.server <|> some enc.server } := by
  unfold stashAsReply at ok ⊢
  split at ok
  · cases ok
  · next packet encoded =>
    refine ⟨packet, encoded, fun store cached => ?_, ?_⟩
    · subst cached
      dsimp only at ok
      split at ok
      · cases ok
      · assumption
    · dsimp only at ok ⊢
      split at ok
      · cases ok
      · rfl

/-- A failed stash leaves the credential's client and server as they were. -/
theorem stashAsReply_names_of_error {e : Failure}
    (failed : (stashAsReply k ccStore asReply enc creds).2 = .error e) :
    (stashAsReply k ccStore asReply enc creds).1.client = creds.client ∧
      (stashAsReply k ccStore asReply enc creds).1.server = creds.server := by
  unfold stashAsReply at failed ⊢
  split at failed
  · next encodeFailed => simp only [encodeFailed]; exact ⟨rfl, rfl⟩
  · next packet encoded =>
    simp only [encoded]
    dsimp only at failed ⊢
    split at failed
    · next storeFailed => simp only [storeFailed]; exact ⟨rfl, rfl⟩
    · cases failed

end Stash

end GetInTkt
