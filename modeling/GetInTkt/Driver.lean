import GetInTkt.InitCreds

/-!
# The drivers of the step API

`krb5_init_creds_init`, which builds the first context from the caller's options and
`[libdefaults]`; `krb5int_init_creds_get_ext`, which runs steps and the transport in a
loop; and `krb5_get_init_creds`, which puts the two together.

`krb5int_init_creds_get_ext` may loop for ever, so the model takes fuel and returns `none`
when the fuel runs out; the transport is a function of the round, so it covers every
stream of replies.
-/

namespace GetInTkt

/-! ## `krb5_init_creds_init` -/

/-- The options of `krb5_gic_opt_ext` that `krb5_init_creds_init` reads. An option whose
bit is clear in `opte->flags` is `none` (`false` for `canonicalize`, a bare bit). -/
structure GicOpt where
  forwardable : Option Bool
  proxiable : Option Bool
  canonicalize : Bool
  tktLife : Option Int
  renewLife : Option Int
  etypeList : Option (List Int)
  addressList : Option (List Data)
  preauthList : Option (List Int)
  salt : Option Data

/-- The collaborators of `krb5_init_creds_init`. -/
structure InitEnv where
  /-- `krb5_c_random_make_octets` into four bytes, read back with `load_32_n`. -/
  randomMakeOctets : Except Failure UInt32
  /-- `krb5_timeofday`. -/
  timeofday : Except Failure Int
  /-- `krb5_os_localaddr`. -/
  osLocaladdr : Except Failure (List Data)
  /-- `krb5_string_to_deltat`. -/
  stringToDeltat : String → Except Failure Int
  /-- `krb5_get_default_in_tkt_ktypes`, up to its `ENCTYPE_NULL`. -/
  getDefaultInTktKtypes : Except Failure (List Int)

/-- Modelled from the spec: the names of the `[libdefaults]` options that the code reads
through its `KRB5_CONF_*` macros ("Configuration recognized"). -/
def krb5ConfForwardable : String := "forwardable"

/-- Modelled from the spec, as `krb5ConfForwardable`. -/
def krb5ConfProxiable : String := "proxiable"

/-- Modelled from the spec, as `krb5ConfForwardable`. -/
def krb5ConfCanonicalize : String := "canonicalize"

/-- Modelled from the spec, as `krb5ConfForwardable`. -/
def krb5ConfTicketLifetime : String := "ticket_lifetime"

/-- Modelled from the spec, as `krb5ConfForwardable`. -/
def krb5ConfRenewLifetime : String := "renew_lifetime"

/-- Modelled from the spec, as `krb5ConfForwardable`. -/
def krb5ConfNoaddresses : String := "noaddresses"

/-- A boolean option of `krb5_init_creds_init`: the caller's value when its bit is set,
else `[libdefaults]`, else false. -/
def gicBoolean (k : Context) (realm : Data) (set : Option Bool) (option : String) : Bool :=
  set.getD ((krb5LibdefaultBoolean k realm option).getD false)

/-- A lifetime of `krb5_init_creds_init`: the caller's value when its bit is set, else the
`[libdefaults]` string through `krb5_string_to_deltat` (whose failure fails the call),
else `default`. -/
def gicLifetime (k : Context) (ienv : InitEnv) (realm : Data) (set : Option Int) (option : String)
    (default : Int) : Except Failure Int :=
  match set with
  | some life => .ok life
  | none =>
    match krb5LibdefaultString k realm option with
    | some s => ienv.stringToDeltat s
    | none => .ok default

/-- The KDC options `krb5_init_creds_init` starts from: the library defaults, then
FORWARDABLE, PROXIABLE, CANONICALIZE, ALLOW_POSTDATE with POSTDATED for a positive start
time, and RENEWABLE for a positive renewable lifetime. -/
def initKdcOptions (k : Context) (realm : Data) (startTime renewLife : Int) (opte : GicOpt) :
    UInt32 :=
  let options := k.kdcDefaultOptions
  let options :=
    if gicBoolean k realm opte.forwardable krb5ConfForwardable then options ||| kdcOptForwardable
    else options
  let options :=
    if gicBoolean k realm opte.proxiable krb5ConfProxiable then options ||| kdcOptProxiable
    else options
  let options :=
    if opte.canonicalize || (krb5LibdefaultBoolean k realm krb5ConfCanonicalize).getD false then
      options ||| kdcOptCanonicalize
    else options
  let options :=
    if startTime > 0 then options ||| kdcOptAllowPostdate ||| kdcOptPostdated else options
  if renewLife > 0 then options ||| kdcOptRenewable else options

/-- `krb5_init_creds_init`: a fresh context for `client`. The lifetimes, enctypes,
addresses and nonce may fail; a failure frees the context. The nonce is 31 random bits
("if we set the high bit, we may have compatibility problems with Heimdal"), or the time
when there is no randomness. -/
def krb5InitCredsInit (k : Context) (ienv : InitEnv) (client : Principal) (startTime : Int)
    (opte : GicOpt) : Except Failure InitCredsContext := do
  let realm := client.realm
  let tktLife ← gicLifetime k ienv realm opte.tktLife krb5ConfTicketLifetime (24 * 60 * 60)
  let renewLife ← gicLifetime k ienv realm opte.renewLife krb5ConfRenewLifetime 0
  let ktype ← (match opte.etypeList with
    | some etypes => .ok etypes
    | none =>
      match ienv.getDefaultInTktKtypes with
      | .ok etypes => .ok etypes
      | .error _ => .error k.errors.krb5ConfigEtypeNosupp : Except Failure (List Int))
  let addresses ← (match opte.addressList with
    | some addresses => .ok addresses
    | none =>
      match krb5LibdefaultBoolean k realm krb5ConfNoaddresses with
      | some false => ienv.osLocaladdr
      | _ => .ok [] : Except Failure (List Data))
  let nonce ← (match ienv.randomMakeOctets with
    | .ok random => .ok ((0x7fffffff &&& random).toNat : Int)
    | .error _ => ienv.timeofday : Except Failure Int)
  pure {
    request := {
      kdcOptions := initKdcOptions k realm startTime renewLife opte
      client, server := none, «from» := 0, till := 0, rtime := 0, nonce, ktype, addresses
      padata := none }
    inTktService := none, startTime, tktLife, renewLife, requestTime := 0, loopcount := 0
    errReply := none, reply := none, encodedRequestBody := none, encodedPreviousRequest := none
    preauthToUse := opte.preauthList.map makePreauthList, salt := opte.salt, s2kparams := []
    etype := 0, asKey := ⟨0, []⟩, cred := Creds.empty }

/-- `krb5_init_creds_set_service`. -/
def krb5InitCredsSetService (ctx : InitCredsContext) (service : String) : InitCredsContext :=
  { ctx with inTktService := some service }

/-- `krb5_init_creds_get_creds`: a copy of the credential. -/
def krb5InitCredsGetCreds (ctx : InitCredsContext) : Creds := ctx.cred

/-- `krb5_init_creds_get_error`: a deep copy of the last KRB-ERROR, if any. -/
def krb5InitCredsGetError (ctx : InitCredsContext) : Option KrbError := ctx.errReply

/-! ## Runs of the step API -/

/-- A run of `krb5_init_creds_step` as any caller makes it: call after call on one context,
each with its own collaborators and input. Returns the last context and every output. -/
def runSteps (k : Context) : List (StepEnv × Data) → InitCredsContext →
    InitCredsContext × List StepOutput
  | [], ctx => (ctx, [])
  | (env, input) :: calls, ctx =>
    let (ctx, o) := krb5InitCredsStep k env ctx input
    let (ctx, os) := runSteps k calls ctx
    (ctx, o :: os)

/-! ## `krb5int_init_creds_get_ext` -/

/-- `krb5_sendto_kdc` as `krb5int_init_creds_get_ext` calls it: on round `i`, with the
request, the realm and whether to use TCP only. -/
abbrev Transport := Nat → Data → Data → Bool → Except Failure Data

/-- The loop of `krb5int_init_creds_get_ext` from round `round`: a step on the last reply,
then, unless the step failed or completed, `krb5_sendto_kdc` on its output. The first
`KRB5KRB_ERR_RESPONSE_TOO_BIG` switches to TCP. Returns the context, the code and the
number of calls of `krb5_sendto_kdc`, or `none` when the fuel runs out. -/
def getExtLoop (k : Context) (envs : Nat → StepEnv) (sendto : Transport) :
    Nat → Nat → Bool → Data → InitCredsContext → Option (InitCredsContext × Int × Nat)
  | 0, _, _, _, _ => none
  | fuel + 1, round, tcpOnly, reply, ctx =>
    let (ctx, o) := krb5InitCredsStep k (envs round) ctx reply
    let sent (tcpOnly : Bool) :=
      match sendto round o.out o.realm tcpOnly with
      | .error e => some (ctx, e.code, round + 1)
      | .ok reply => getExtLoop k envs sendto fuel (round + 1) tcpOnly reply ctx
    if o.code = krb5krbErrResponseTooBig ∧ tcpOnly = false then sent true
    else if o.code ≠ 0 ∨ o.complete = true then some (ctx, o.code, round)
    else sent tcpOnly

/-- `krb5int_init_creds_get_ext` (and `krb5_init_creds_get`): nothing to do when a reply
is already held ("we're finished"), else the loop from an empty reply. -/
def krb5intInitCredsGetExt (k : Context) (envs : Nat → StepEnv) (sendto : Transport)
    (fuel : Nat) (ctx : InitCredsContext) : Option (InitCredsContext × Int × Nat) :=
  if ctx.reply.isSome then some (ctx, 0, 0)
  else getExtLoop k envs sendto fuel 0 false [] ctx

/-! ## `krb5_get_init_creds` -/

/-- `krb5_get_init_creds`: init, the loop, then a copy of the credential and the reply.
Its `in_tkt_service` argument is never handed to the context, so it is not an argument
here. Returns the code, the credential and the reply, or `none` when the fuel runs out. -/
def krb5GetInitCreds (k : Context) (ienv : InitEnv) (envs : Nat → StepEnv) (sendto : Transport)
    (fuel : Nat) (client : Principal) (startTime : Int) (opte : GicOpt) :
    Option (Int × Creds × Option KdcRep) :=
  match krb5InitCredsInit k ienv client startTime opte with
  | .error e => some (e.code, Creds.empty, none)
  | .ok ctx =>
    (krb5intInitCredsGetExt k envs sendto fuel ctx).map fun (ctx, code, _) =>
      if code ≠ 0 then (code, Creds.empty, none)
      else (0, krb5InitCredsGetCreds ctx, ctx.reply)

end GetInTkt
