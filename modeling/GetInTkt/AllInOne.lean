import GetInTkt.Reply
import GetInTkt.Padata
import GetInTkt.InitCreds

/-!
# The all-in-one driver: `krb5_get_in_tkt`

The transport-coupled loop: build the request, obtain padata, send it, and on a KRB-ERROR
either retry with the KDC's padata, follow a WRONG_REALM referral, or give up; on an
AS-REP process its padata and, unless the pre-auth asks for more, decrypt, verify and
stash it.

The loop runs while `loopcount++ > MAX_IN_TKT_LOOPS` is false, so it ends; the model
recurses on the room left under that bound. Besides what the C function hands back (its
code, the credential and `*ret_as_reply`), the model records the requests it encodes
and the realms it sends them to, in order.
-/

namespace GetInTkt

/-! ## Replies of `send_as_request` -/

/-- What `send_as_request` hands back on success: a KRB-ERROR or an AS-REP. -/
inductive AsResponse
  | krbError (error : KrbError)
  | asRep (asReply : KdcRep)

/-- `KRB5KRB_AP_ERR_MSG_TYPE` as a failure. -/
def msgTypeFailure : Failure := ⟨krb5krbApErrMsgType, by decide⟩

/-- The classification of one reply in `send_as_request`, logging the bytes of the reply it
reads itself (besides what `krb5_is_krb_error`, `krb5_is_as_rep` and the decoders read).
The V4 check also accepts the first byte of the request (`k4_version`) as the version
byte. -/
def classifyAsReplyLogged (k : Context) (k4Version : UInt8) (reply : Data) :
    ReadLog (Except Failure AsResponse) :=
  if k.isKrbError reply then
    pure <| match k.decodeKrb5Error reply with
      | .error e => .error e
      | .ok error => .ok (.krbError error)
  else if k.isAsRep reply = false then do
    return if ← v4Check [v4KrbProtVersion, k4Version] reply then .error k.errors.krb5krbApErrV4Reply
      else .error msgTypeFailure
  else
    pure <| match k.decodeKrb5AsRep reply with
      | .error e => .error e
      | .ok asReply =>
        if asReply.msgType ≠ krb5AsRep then .error msgTypeFailure else .ok (.asRep asReply)

/-- The classification of one reply in `send_as_request`: the result of its logged run. -/
def classifyAsReply (k : Context) (k4Version : UInt8) (reply : Data) : Except Failure AsResponse :=
  ((classifyAsReplyLogged k k4Version reply).run []).1

/-- The indices of `reply.data` that the classification of `send_as_request` reads itself,
in order. -/
def classifyAsReplyReads (k : Context) (k4Version : UInt8) (reply : Data) : List Nat :=
  ((classifyAsReplyLogged k k4Version reply).run []).2

/-- `send_as_request`: `sendto tcpOnly` is `krb5_sendto_kdc` on the encoded request
`packet`. A KRB-ERROR `RESPONSE_TOO_BIG` on the first try sends once more over TCP. -/
def sendAsRequest (k : Context) (sendto : Bool → Except Failure Data) (packet : Data) :
    Except Failure AsResponse :=
  let attempt (tcpOnly : Bool) : Except Failure AsResponse :=
    match sendto tcpOnly with
    | .error e => .error e
    | .ok reply => classifyAsReply k (packet.byte 0) reply
  match attempt false with
  | .ok (.krbError error) => if error.error = krbErrResponseTooBig then attempt true else .ok (.krbError error)
  | result => result

/-! ## Enctypes and principals -/

/-- `get_in_tkt_enctypes`, without its terminating 0: DES3-CBC-SHA1, ARCFOUR-HMAC,
DES-CBC-MD5, DES-CBC-MD4, DES-CBC-CRC. -/
def getInTktEnctypes : List Int := [16, 23, 3, 2, 1]

/-- `a[i] = a[j]` and `a[j] = a[i]` at once. -/
def swapAt (a : List Int) (i j : Nat) : List Int :=
  (a.set i (a.getD j 0)).set j (a.getD i 0)

/-- The reordering loop of `krb5_get_in_tkt` over the caller's enctypes `ktypes`, on the
table `ktype` with `nktypes` live entries: an enctype already at `next` stays, one found
later is swapped into `next`, any other is dropped. Returns the table and `next`. -/
def reorderKtypes (nktypes : Nat) : List Int → List Int → Nat → List Int × Nat
  | [], ktype, next => (ktype, next)
  | t :: ktypes, ktype, next =>
    if ktype.getD next 0 = t then reorderKtypes nktypes ktypes ktype (next + 1)
    else
      match ((List.range nktypes).drop (next + 1)).find? (fun i => ktype.getD i 0 = t) with
      | some i => reorderKtypes nktypes ktypes (swapAt ktype next i) (next + 1)
      | none => reorderKtypes nktypes ktypes ktype next

/-- The swap of the reordering loop, logged: `t = request.ktype[next]`,
`request.ktype[next] = request.ktype[i]`, `request.ktype[i] = t`. -/
def swapAtLogged (a : List Int) (next i : Nat) : ReadLog (List Int) := do
  let t ← readAt a next 0
  let a ← writeAt a next (← readAt a i 0)
  writeAt a i t

/-- The inner loop `for (i = next + 1; i < request.nktypes; i++)` over the indices `is`,
logged: the first `i` whose `request.ktype[i]` is the caller's enctype `t`. -/
def findKtype (ktype : List Int) (t : Int) : List Nat → ReadLog (Option Nat)
  | [] => pure none
  | i :: is => do if (← readAt ktype i 0) = t then pure (some i) else findKtype ktype t is

/-- The reordering loop of `krb5_get_in_tkt`, logging each index of `request.ktype` it
reads or writes. -/
def reorderKtypesLogged (nktypes : Nat) : List Int → List Int → Nat → ReadLog (List Int × Nat)
  | [], ktype, next => pure (ktype, next)
  | t :: ktypes, ktype, next => do
    if (← readAt ktype next 0) = t then reorderKtypesLogged nktypes ktypes ktype (next + 1)
    else
      match ← findKtype ktype t ((List.range nktypes).drop (next + 1)) with
      | some i => reorderKtypesLogged nktypes ktypes (← swapAtLogged ktype next i) (next + 1)
      | none => reorderKtypesLogged nktypes ktypes ktype next

/-- The indices of `request.ktype` the reordering loop reads or writes, in order, as its
logged run records them, and last the terminating 0 written at `next`. -/
def reorderKtypesIndices (nktypes : Nat) (ktypes ktype : List Int) (next : Nat) : List Nat :=
  let run := (reorderKtypesLogged nktypes ktypes ktype next).run []
  run.2 ++ [run.1.2]

/-- The enctypes of the request of `krb5_get_in_tkt`: the table, or, given the caller's
enctypes (before their terminating 0), the table reordered and cut at `next`. -/
def inTktKtypes (ktypes : Option (List Int)) : List Int :=
  match ktypes with
  | none => getInTktEnctypes
  | some ktypes =>
    let (ktype, next) := reorderKtypes getInTktEnctypes.length ktypes (getInTktEnctypes ++ [0]) 0
    ktype.take next

/-- `request.ktype` and `request.nktypes` as the reordering of `krb5_get_in_tkt` leaves them
for the caller's enctypes: the reordered copy of the table with 0 written at `next`, and
`next`. -/
def inTktKtypeTable (ktypes : List Int) : List Int × Nat :=
  let (ktype, next) := reorderKtypes getInTktEnctypes.length ktypes (getInTktEnctypes ++ [0]) 0
  (ktype.set next 0, next)

/-- `tgt_is_local_realm`: the server is `krbtgt/<client realm>@<client realm>`. -/
def tgtIsLocalRealm (client server : Principal) : Bool :=
  server.data.length == 2 && server.data.head? == some krb5TgsName &&
    server.data.getD 1 [] == client.realm && server.realm == client.realm

/-- `rewrite_server_realm`: the old server in `realm`, and for a TGS request its second
component too. -/
def rewriteServerRealm (oldServer : Principal) (realm : Data) (tgs : Bool) : Principal :=
  let server := { oldServer with realm }
  if tgs then { server with data := server.data.set 1 realm } else server

/-! ## The loop -/

/-- The arguments of `krb5_get_in_tkt` besides the credential: the options, the caller's
addresses, enctypes and pre-auth types (each before its terminating 0, `none` for NULL),
`key_proc` with its seed, `decrypt_proc` with its argument, and the cache, if any. -/
structure InTktCall where
  options : UInt32
  addrs : Option (List Data)
  ktypes : Option (List Int)
  ptypes : Option (List Int)
  keyProc : Int → Data → Except Failure Keyblock
  decryptProc : Keyblock → KdcRep → Except Failure EncKdcRepPart
  ccStore : Option (Creds → Except Failure Unit)

/-- The collaborators of one round of the loop of `krb5_get_in_tkt` (the first round's also
give the local addresses, the last round's set the real time). -/
structure InTktEnv where
  /-- `krb5_os_localaddr`. -/
  osLocaladdr : Except Failure (List Data)
  /-- `krb5_obtain_padata`: what it leaves in `request->padata`, from the candidates. -/
  obtainPadata : Option (List PaData) → KdcReq → Except Failure (Option (List PaData))
  /-- `krb5_timeofday`. -/
  timeofday : Except Failure Int
  /-- `krb5_sendto_kdc` on the encoded request and the realm, over TCP only or not. -/
  sendtoKdc : Data → Data → Bool → Except Failure Data
  /-- `krb5_process_padata`: the reply, the decryption key it may set, and `do_more`. -/
  processPadata : KdcReq → KdcRep → Option Keyblock →
    Except Failure (KdcRep × Option Keyblock × Bool)
  /-- `krb5_set_real_time`. -/
  setRealTime : Int → Except Failure Unit

/-- The local variables that the loop of `krb5_get_in_tkt` carries from round to round;
`asReply` is the reply of a round whose pre-auth asked for more, held until the next round
clears it. -/
structure InTktState where
  request : KdcReq
  preauthToUse : Option (List PaData)
  loopcount : Nat
  referralCount : Nat
  timeNow : Int
  decryptKey : Option Keyblock
  asReply : Option KdcRep

/-- What `krb5_get_in_tkt` hands back: its code, the credential, `*ret_as_reply`, and
(recorded by the model) each request encoded with the realm it was sent to, and the
request as it stood at the end. -/
structure InTktOutcome where
  code : Int
  creds : Creds
  asReply : Option KdcRep
  sent : List (KdcReq × Data)
  request : KdcReq

/-- The realm of the request's server, where the sort looks up the preferences. -/
def KdcReq.serverRealm (request : KdcReq) : Data :=
  (request.server.map (·.realm)).getD []

/-- The key `decrypt_as_reply` is given: the one `krb5_process_padata` set, if any, else
`key_proc`. -/
def InTktState.decryptWith (st : InTktState) (call : InTktCall) : DecryptKey :=
  match st.decryptKey with
  | some key => .key key
  | none => .keyProc call.keyProc

/-- The end of `krb5_get_in_tkt` on the reply `asReply` the loop settled on:
`decrypt_as_reply`, `verify_as_reply`, then `stash_as_reply` into `creds`. -/
def inTktFinish (k : Context) (call : InTktCall) (env : InTktEnv) (st : InTktState)
    (asReply : KdcRep) (creds : Creds) (sent : List (KdcReq × Data)) : InTktOutcome :=
  match decryptAsReply k (st.decryptWith call) call.decryptProc asReply with
  | .error e => ⟨e.code, creds, some asReply, sent, st.request⟩
  | .ok enc =>
    let (enc, verified) := verifyAsReply k env.setRealTime st.timeNow st.request asReply enc
    let asReply := { asReply with encPart2 := some enc }
    match verified with
    | .error e => ⟨e.code, creds, some asReply, sent, st.request⟩
    | .ok () =>
      let (creds, stashed) := stashAsReply k call.ccStore asReply enc creds
      match stashed with
      | .error e => ⟨e.code, creds, some asReply, sent, st.request⟩
      | .ok () => ⟨0, creds, some asReply, sent, st.request⟩

/-- The start of a round of `krb5_get_in_tkt`: `krb5_obtain_padata`, then `as_reply = 0`,
`krb5_timeofday` into the nonce, and `encode_krb5_as_req`. Returns the request, the time
and the encoding, or the failure's code with the request as it stood and the reply still
held. -/
def inTktPrepare (k : Context) (env : InTktEnv) (st : InTktState) :
    Except (Int × KdcReq × Option KdcRep) (KdcReq × Int × Data) :=
  match env.obtainPadata st.preauthToUse st.request with
  | .error e => .error (e.code, st.request, st.asReply)
  | .ok padata =>
    let request := { st.request with padata }
    match env.timeofday with
    | .error e => .error (e.code, request, none)
    | .ok now =>
      let request := { request with nonce := now }
      match k.encodeKrb5AsReq request with
      | .error e => .error (e.code, request, none)
      | .ok encoded => .ok (request, now, encoded)

/-- What `krb5_get_in_tkt` does with a KRB-ERROR answering `request`: go round again with a
request, referral count and pre-auth list, or stop with a code (which may be 0).
PREAUTH_REQUIRED with e-data retries with the KDC's padata; WRONG_REALM under
canonicalization moves the caller's client and server to the referred realm, at most
`maxHops` times; anything else gives `error + ERROR_TABLE_BASE_krb5`. -/
def inTktOnError (k : Context) (maxHops : Nat) (canonFlag isTgtReq : Bool)
    (client server : Principal) (referralCount : Nat) (request : KdcReq) (error : KrbError) :
    Except Int (KdcReq × Nat × Option (List PaData)) :=
  if error.error = kdcErrPreauthRequired ∧ error.eData.length > 0 then
    match k.decodeKrb5PadataSequence error.eData with
    | .error e => .error e.code
    | .ok padata =>
      .ok (request, referralCount, sortKrb5PadataSequence k request.serverRealm padata)
  else if canonFlag = true ∧ error.error = kdcErrWrongRealm then
    let referralCount := referralCount + 1
    match error.client with
    | some referred =>
      if referralCount > maxHops ∨ referred.realm.length = 0 then .error krb5kdcErrWrongRealm
      else
        .ok ({ request with
            client := { client with realm := referred.realm }
            server := some (rewriteServerRealm server referred.realm isTgtReq) },
          referralCount, none)
    | none => .error krb5kdcErrWrongRealm
  else .error (kdcErrorCode error.error)

/-- The loop of `krb5_get_in_tkt` from state `st`, having sent `sent`. -/
def inTktLoop (k : Context) (maxHops : Nat) (call : InTktCall) (envs : Nat → InTktEnv)
    (canonFlag isTgtReq : Bool) (client server : Principal) (creds : Creds)
    (st : InTktState) (sent : List (KdcReq × Data)) : InTktOutcome :=
  if st.loopcount > maxInTktLoops then
    ⟨k.errors.krb5GetInTktLoop.code, creds, st.asReply, sent, st.request⟩
  else
    let env := envs st.loopcount
    match inTktPrepare k env st with
    | .error (code, request, held) => ⟨code, creds, held, sent, request⟩
    | .ok (request, now, encoded) =>
    let sent := sent ++ [(request, request.client.realm)]
    match sendAsRequest k (env.sendtoKdc encoded request.client.realm) encoded with
    | .error e => ⟨e.code, creds, none, sent, request⟩
    | .ok (.krbError error) =>
      match inTktOnError k maxHops canonFlag isTgtReq client server st.referralCount request error with
      | .error code => ⟨code, creds, none, sent, request⟩
      | .ok (request, referralCount, preauthToUse) =>
        inTktLoop k maxHops call envs canonFlag isTgtReq client server creds
          { st with request, loopcount := st.loopcount + 1, referralCount, timeNow := now
                    preauthToUse, asReply := none } sent
    | .ok (.asRep asReply) =>
      match env.processPadata request asReply st.decryptKey with
      | .error e => ⟨e.code, creds, some asReply, sent, request⟩
      | .ok (asReply, decryptKey, doMore) =>
        let st := { st with request, loopcount := st.loopcount + 1, timeNow := now, decryptKey
                            preauthToUse := none, asReply := some asReply }
        if doMore then inTktLoop k maxHops call envs canonFlag isTgtReq client server creds st sent
        else inTktFinish k call env st asReply creds sent
termination_by maxInTktLoops + 1 - st.loopcount

/-- `krb5_get_in_tkt` for the client and server of `creds`, which the code dereferences
and so must not be NULL. The two must share a realm. The request starts from the
credential's times; referrals are followed at most `maxHops` times
(`KRB5_REFERRAL_MAXHOPS`, which the source does not define). -/
def krb5GetInTkt (k : Context) (maxHops : Nat) (call : InTktCall) (envs : Nat → InTktEnv)
    (client server : Principal) (creds : Creds) : InTktOutcome :=
  let creds := { creds with client := some client, server := some server }
  let request : KdcReq := {
    kdcOptions := call.options, client, server := some server
    «from» := creds.times.starttime, till := creds.times.endtime, rtime := creds.times.renewTill
    nonce := 0, ktype := inTktKtypes call.ktypes, addresses := [], padata := none }
  if realmCompare client server = false then
    ⟨k.errors.krb5InTktRealmMismatch.code, creds, none, [], request⟩
  else
    let canonFlag := hasFlag call.options kdcOptCanonicalize || client.type == krb5NtEnterprisePrincipal
    let addresses : Except Failure (List Data) :=
      match call.addrs with
      | some addrs => .ok addrs
      | none => (envs 0).osLocaladdr
    match addresses with
    | .error e => ⟨e.code, creds, none, [], request⟩
    | .ok addresses =>
      inTktLoop k maxHops call envs canonFlag (tgtIsLocalRealm client server) client server creds
        ⟨{ request with addresses }, call.ptypes.map makePreauthList, 0, 0, 0, none, none⟩ []

end GetInTkt
