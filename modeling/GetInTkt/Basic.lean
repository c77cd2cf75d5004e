import Mathlib.Data.List.Basic
import Mathlib.Tactic.Ring

/-!
# The data of the AS exchange

The records that `get_in_tkt.c` reads and writes: principals, the AS-REQ, the AS-REP
with its decrypted part, the KRB-ERROR and the credential the exchange fills in, with
the constants the file compares them against.

Conventions of the model:
* `krb5_data` is a list of bytes; a `krb5_principal`, `krb5_pa_data **` or `krb5_data *`
  that the code tests against NULL is an `Option`.
* `krb5_int32`, `krb5_timestamp` and `krb5_error_code` are `Int`; where the code stores
  a wider value into one of them, `toInt32` truncates it as the assignment does.
* A collaborator that fails returns a `Failure`, an error code that is not 0.
* Allocation does not fail: `krb5_copy_*` and `krb5int_copy_data_contents` are copies.
-/

namespace GetInTkt

/-- `krb5_data`: a counted byte string. -/
abbrev Data := List UInt8

/-- A `krb5_error_code` other than 0: what a collaborator returns when it fails. -/
structure Failure where
  code : Int
  code_ne_zero : code ≠ 0
deriving DecidableEq

/-! ## 32-bit integers -/

/-- A computation in `Except` that succeeds succeeded at each step. -/
theorem except_bind_eq_ok {ε α β : Type} {x : Except ε α} {f : α → Except ε β} {b : β}
    (h : (x >>= f) = .ok b) : ∃ a, x = .ok a ∧ f a = .ok b := by
  cases x with
  | error e => cases h
  | ok a => exact ⟨a, rfl, h⟩

/-- `KRB5_INT32_MAX`. -/
def krb5Int32Max : Int := 2147483647

/-- `KRB5_INT32_MIN`. -/
def krb5Int32Min : Int := -2147483648

/-- The value a `krb5_int32` holds after an assignment from a wider integer:
two's-complement truncation to 32 bits. -/
def toInt32 (x : Int) : Int := (x + 2 ^ 31) % 2 ^ 32 - 2 ^ 31

theorem toInt32_eq_zero_iff (x : Int) : toInt32 x = 0 ↔ x % 2 ^ 32 = 0 := by
  unfold toInt32
  omega

/-- `krb5int_addint32`: 32-bit addition that saturates at `KRB5_INT32_MAX` and
`KRB5_INT32_MIN` instead of wrapping, "so we can generate lifetimes without overflowing". -/
def krb5intAddint32 (x y : Int) : Int :=
  if x > 0 ∧ y > krb5Int32Max - x then krb5Int32Max
  else if x < 0 ∧ y < krb5Int32Min - x then krb5Int32Min
  else x + y

/-- A value a `krb5_int32` can hold. -/
def InInt32 (x : Int) : Prop := krb5Int32Min ≤ x ∧ x ≤ krb5Int32Max

instance : DecidablePred InInt32 := fun x =>
  inferInstanceAs (Decidable (krb5Int32Min ≤ x ∧ x ≤ krb5Int32Max))

/-- `x` saturated to the range of a `krb5_int32`: what bounded addition is meant to give. -/
def int32Saturate (x : Int) : Int := max krb5Int32Min (min krb5Int32Max x)

/-- The arithmetic `krb5int_addint32 x y` evaluates stays within a `krb5_int32`:
`KRB5_INT32_MAX - x` where `x > 0`, `KRB5_INT32_MIN - x` where `x < 0`, and `x + y` where
neither guard holds. -/
structure Addint32Safe (x y : Int) : Prop where
  maxGuard : x > 0 → InInt32 (krb5Int32Max - x)
  minGuard : x < 0 → InInt32 (krb5Int32Min - x)
  sum : ¬(x > 0 ∧ y > krb5Int32Max - x) → ¬(x < 0 ∧ y < krb5Int32Min - x) → InInt32 (x + y)

section Addint32

variable {x y : Int}

/-- On a `krb5_int32` second operand, `krb5int_addint32` is the saturated sum. -/
theorem krb5intAddint32_eq_saturate (hy : InInt32 y) : krb5intAddint32 x y = int32Saturate (x + y) := by
  unfold InInt32 at hy
  unfold krb5intAddint32 int32Saturate krb5Int32Max krb5Int32Min at *
  split_ifs <;> omega

theorem krb5intAddint32_safe (hx : InInt32 x) (hy : InInt32 y) : Addint32Safe x y := by
  refine ⟨fun _ => ?_, fun _ => ?_, fun _ _ => ?_⟩ <;>
    unfold InInt32 krb5Int32Max krb5Int32Min at * <;> omega

theorem int32Saturate_inInt32 (x : Int) : InInt32 (int32Saturate x) := by
  unfold InInt32 int32Saturate krb5Int32Max krb5Int32Min
  omega

end Addint32

/-! ## Error codes -/

/-- `ERROR_TABLE_BASE_krb5`: where the krb5 error table starts in the `krb5_error_code`
space. Its first 128 entries are the protocol's error numbers, in order. -/
def errorTableBaseKrb5 : Int := -1765328384

/-- `err_reply->error + ERROR_TABLE_BASE_krb5`: the `krb5_error_code` for the 32-bit
error number of a KRB-ERROR. Both spellings in the file, with and without the cast to
`krb5_error_code`, store the same 32-bit value. -/
def kdcErrorCode (e : UInt32) : Int := toInt32 (e.toNat + errorTableBaseKrb5)

/-- `KDC_ERR_C_PRINCIPAL_UNKNOWN`. -/
def kdcErrCPrincipalUnknown : UInt32 := 6

/-- `KDC_ERR_PREAUTH_REQUIRED`. -/
def kdcErrPreauthRequired : UInt32 := 25

/-- `KRB_AP_ERR_MSG_TYPE`. -/
def krbApErrMsgType : UInt32 := 40

/-- `KRB_ERR_RESPONSE_TOO_BIG`. -/
def krbErrResponseTooBig : UInt32 := 52

/-- `KRB_ERR_GENERIC`. -/
def krbErrGeneric : UInt32 := 60

/-- `KDC_ERR_WRONG_REALM`. -/
def kdcErrWrongRealm : UInt32 := 68

/-- `KRB5KDC_ERR_C_PRINCIPAL_UNKNOWN`. -/
def krb5kdcErrCPrincipalUnknown : Int := kdcErrorCode kdcErrCPrincipalUnknown

/-- `KRB5KDC_ERR_PREAUTH_REQUIRED`. -/
def krb5kdcErrPreauthRequired : Int := kdcErrorCode kdcErrPreauthRequired

/-- `KRB5KRB_AP_ERR_MSG_TYPE`. -/
def krb5krbApErrMsgType : Int := kdcErrorCode krbApErrMsgType

/-- `KRB5KRB_ERR_RESPONSE_TOO_BIG`. -/
def krb5krbErrResponseTooBig : Int := kdcErrorCode krbErrResponseTooBig

/-- `KRB5KRB_ERR_GENERIC`. -/
def krb5krbErrGeneric : Int := kdcErrorCode krbErrGeneric

/-- `KRB5KDC_ERR_WRONG_REALM`. -/
def krb5kdcErrWrongRealm : Int := kdcErrorCode kdcErrWrongRealm

/-- The one KDC error number that the mapping sends to 0, that is to success:
`2^32 + ERROR_TABLE_BASE_krb5`. -/
def wrappingError : UInt32 := 1765328384

theorem kdcErrorCode_eq_zero_iff (e : UInt32) : kdcErrorCode e = 0 ↔ e = wrappingError := by
  rw [kdcErrorCode, toInt32_eq_zero_iff, errorTableBaseKrb5]
  constructor
  · intro wraps
    have bound : e.toNat < 2 ^ 32 := e.toNat_lt_size
    exact UInt32.toNat.inj (show e.toNat = 1765328384 by omega)
  · rintro rfl
    decide

theorem kdcErrorCode_ne_zero {e : UInt32} (h : e ≠ wrappingError) : kdcErrorCode e ≠ 0 :=
  fun zero => h ((kdcErrorCode_eq_zero_iff e).mp zero)

/-- The codes of the library's own error table that this file returns. The table is
generated at build time and is not among the sources, so the codes are parameters; the
code relies only on their being nonzero. -/
structure LibErrors where
  krb5GetInTktLoop : Failure
  krb5KdcrepModified : Failure
  krb5KdcrepSkew : Failure
  krb5InTktRealmMismatch : Failure
  krb5krbApErrV4Reply : Failure
  krb5ConfigEtypeNosupp : Failure
  /-- `EINVAL`, which `krb5int_copy_data_contents` returns for a NULL source. -/
  einval : Failure

/-! ## Principals -/

/-- `krb5_principal_data`: a realm, the name components and the name type. -/
structure Principal where
  realm : Data
  data : List Data
  type : Int
deriving DecidableEq, Repr

/-- `KRB5_TGS_NAME`, the bytes of `"krbtgt"`. -/
def krb5TgsName : Data := [0x6b, 0x72, 0x62, 0x74, 0x67, 0x74]

/-- `KRB5_NT_ENTERPRISE_PRINCIPAL`. -/
def krb5NtEnterprisePrincipal : Int := 10

/-- `KRB5_NT_UNKNOWN`, the name type `krb5_build_principal_ext` gives. -/
def krb5NtUnknown : Int := 0

/-- Modelled from the spec: `krb5_principal_compare`. "Equality is component-wise": the
realms and the name components agree; the name type is not compared. -/
def principalCompare (p q : Principal) : Bool :=
  p.realm == q.realm && p.data == q.data

/-- Modelled from the spec: `IS_TGS_PRINC`. "A TGS principal has exactly two name
components where the first equals the literal `krbtgt`." -/
def isTgsPrinc (p : Principal) : Bool :=
  p.data.length == 2 && p.data.head? == some krb5TgsName

/-- `krb5_realm_compare`. -/
def realmCompare (p q : Principal) : Bool := p.realm == q.realm

@[simp] theorem principalCompare_iff (p q : Principal) :
    principalCompare p q = true ↔ p.realm = q.realm ∧ p.data = q.data := by
  simp [principalCompare]

/-! ## Messages -/

/-- `KDC_OPT_FORWARDABLE`. -/
def kdcOptForwardable : UInt32 := 0x40000000

/-- `KDC_OPT_PROXIABLE`. -/
def kdcOptProxiable : UInt32 := 0x10000000

/-- `KDC_OPT_ALLOW_POSTDATE`. -/
def kdcOptAllowPostdate : UInt32 := 0x04000000

/-- `KDC_OPT_POSTDATED`. -/
def kdcOptPostdated : UInt32 := 0x02000000

/-- `KDC_OPT_RENEWABLE`; the code also tests the ticket flags of a reply with it. -/
def kdcOptRenewable : UInt32 := 0x00800000

/-- `KDC_OPT_CANONICALIZE`. -/
def kdcOptCanonicalize : UInt32 := 0x00010000

/-- `KDC_OPT_RENEWABLE_OK`. -/
def kdcOptRenewableOk : UInt32 := 0x00000010

/-- `flags & bit` is nonzero. -/
def hasFlag (flags bit : UInt32) : Bool := flags &&& bit != 0

/-- `KRB5_AS_REP`, the message type of an AS-REP. -/
def krb5AsRep : Int := 11

/-- `krb5_keyblock`; its `length` is the length of `contents`. -/
structure Keyblock where
  enctype : Int
  contents : Data
deriving DecidableEq, Repr

/-- `krb5_ticket_times`. -/
structure TicketTimes where
  authtime : Int
  starttime : Int
  endtime : Int
  renewTill : Int
deriving DecidableEq, Repr

/-- `krb5_pa_data`. -/
structure PaData where
  paType : Int
  contents : Data
deriving DecidableEq, Repr

/-- `krb5_enc_data`: the encrypted part of a reply or ticket. -/
structure EncData where
  enctype : Int
  kvno : Nat
  ciphertext : Data
deriving DecidableEq, Repr

/-- `krb5_ticket`, as far as the client reads it. -/
structure Ticket where
  server : Principal
  encPart : EncData
deriving DecidableEq, Repr

/-- `krb5_enc_kdc_rep_part`: the decrypted part of an AS-REP. -/
structure EncKdcRepPart where
  session : Keyblock
  nonce : Int
  flags : UInt32
  times : TicketTimes
  server : Principal
  caddrs : List Data
deriving DecidableEq, Repr

/-- `krb5_kdc_rep`. `encPart2` is NULL until the reply is decrypted. -/
structure KdcRep where
  msgType : Int
  padata : Option (List PaData)
  client : Principal
  ticket : Ticket
  encPart : EncData
  encPart2 : Option EncKdcRepPart
deriving DecidableEq, Repr

/-- `krb5_error`, the body of a KRB-ERROR. -/
structure KrbError where
  ctime : Int
  cusec : Int
  stime : Int
  susec : Int
  error : UInt32
  client : Option Principal
  server : Principal
  text : Data
  eData : Data
deriving DecidableEq, Repr

/-- `krb5_kdc_req`, the AS-REQ. `server` is NULL between the two halves of
`init_creds_step_request`. -/
structure KdcReq where
  kdcOptions : UInt32
  client : Principal
  server : Option Principal
  «from» : Int
  till : Int
  rtime : Int
  nonce : Int
  ktype : List Int
  addresses : List Data
  padata : Option (List PaData)
deriving DecidableEq, Repr

/-- The fields of an AS-REQ that `encode_krb5_kdc_req_body` encodes: everything but the
padata. The encoding is injective, so the model keeps the fields themselves. -/
structure KdcReqBody where
  kdcOptions : UInt32
  client : Principal
  server : Option Principal
  «from» : Int
  till : Int
  rtime : Int
  nonce : Int
  ktype : List Int
  addresses : List Data
deriving DecidableEq, Repr

/-- The body of a request. -/
def KdcReq.body (r : KdcReq) : KdcReqBody :=
  ⟨r.kdcOptions, r.client, r.server, r.«from», r.till, r.rtime, r.nonce, r.ktype, r.addresses⟩

/-- Canonicalization is requested: the CANONICALIZE option, or an enterprise client
("per referrals draft, enterprise principals imply canonicalization"). -/
def KdcReq.canonFlag (r : KdcReq) : Bool :=
  hasFlag r.kdcOptions kdcOptCanonicalize || r.client.type == krb5NtEnterprisePrincipal

/-- `krb5_creds`. -/
structure Creds where
  client : Option Principal
  server : Option Principal
  keyblock : Keyblock
  times : TicketTimes
  isSkey : Bool
  ticketFlags : UInt32
  addresses : List Data
  ticket : Data
  secondTicket : Data
deriving DecidableEq, Repr

/-- A zeroed `krb5_creds`, as `k5alloc` leaves it. -/
def Creds.empty : Creds :=
  ⟨none, none, ⟨0, []⟩, ⟨0, 0, 0, 0⟩, false, 0, [], [], []⟩

/-! ## The library around the file -/

/-- The library as the file reaches it, through `krb5_context` or through another module:
the configuration, the ASN.1 codecs and the error table. None of it changes during an
exchange. -/
structure Context where
  /-- `context->clockskew`. -/
  clockskew : Int
  /-- `context->library_options & KRB5_LIBOPT_SYNC_KDCTIME`. -/
  syncKdctime : Bool
  /-- `context->kdc_default_options`. -/
  kdcDefaultOptions : UInt32
  /-- `profile_get_values`: the values at a path of the configuration, none if absent. -/
  profile : List String → List String
  /-- `krb5_is_krb_error`. -/
  isKrbError : Data → Bool
  /-- `krb5_is_as_rep`. -/
  isAsRep : Data → Bool
  decodeKrb5Error : Data → Except Failure KrbError
  decodeKrb5AsRep : Data → Except Failure KdcRep
  decodeKrb5PadataSequence : Data → Except Failure (Option (List PaData))
  encodeKrb5AsReq : KdcReq → Except Failure Data
  encodeKrb5Ticket : Ticket → Except Failure Data
  /-- `krb5_principal2salt`: the default salt of a principal. -/
  principal2salt : Principal → Data
  /-- `krb5_parse_name`. -/
  parseName : String → Except Failure Principal
  /-- `krb5_unparse_name`. -/
  unparseName : Principal → String
  errors : LibErrors

/-! ## Indexed reads

The code reads replies and the enctype table by index, with nothing in the way of an index
past the end. A computation in `ReadLog` logs every index it reads or writes, in order,
so that what a piece of code computes and the indices it touches come from one run. -/

/-- A computation that logs, in order, the indices it reads or writes. -/
abbrev ReadLog := StateM (List Nat)

/-- `a[i]`, logged. An index past the end reads `default`. -/
def readAt {α : Type} (a : List α) (i : Nat) (default : α) : ReadLog α :=
  modifyGet fun log => (a.getD i default, log ++ [i])

/-- `a[i] = v`, logged. -/
def writeAt {α : Type} (a : List α) (i : Nat) (v : α) : ReadLog (List α) :=
  modifyGet fun log => (a.set i v, log ++ [i])

@[simp] theorem readAt_run {α : Type} (a : List α) (i : Nat) (default : α) (log : List Nat) :
    (readAt a i default).run log = (a.getD i default, log ++ [i]) := rfl

@[simp] theorem writeAt_run {α : Type} (a : List α) (i : Nat) (v : α) (log : List Nat) :
    (writeAt a i v).run log = (a.set i v, log ++ [i]) := rfl

end GetInTkt
