import GetInTkt.Basic

/-!
# Configuration lookups and the pre-auth list

`krb5_libdefault_string`, `krb5_libdefault_boolean` and `_krb5_conf_boolean`, which read
`[libdefaults]`, and the two functions that build or reorder a pre-auth list:
`make_preauth_list` and `sort_krb5_padata_sequence`.

The preference string is read as the C code reads it: `strspn` over `", "`, then `strtol`
in base 10, which skips white space, takes a sign and saturates at the bounds of a 64-bit
`long`; the first position where no number can be read ends the scan.
-/

namespace GetInTkt

/-! ## `[libdefaults]` -/

/-- `KRB5_CONF_LIBDEFAULTS`. -/
def krb5ConfLibdefaults : String := "libdefaults"

/-- The C string in a `krb5_data`: its bytes up to the first NUL, one character a byte. -/
def Data.toCString (d : Data) : String :=
  String.mk ((d.takeWhile (· != 0)).map fun b => Char.ofNat b.toNat)

/-- `krb5_libdefault_string`: the option under the realm's subsection of `[libdefaults]`,
else the option in `[libdefaults]` itself. Every failure (a realm longer than 1023 bytes,
no value) is `none`: the callers only test for 0. -/
def krb5LibdefaultString (k : Context) (realm : Data) (option : String) : Option String :=
  if realm.length > 1023 then none
  else
    match k.profile [krb5ConfLibdefaults, realm.toCString, option] with
    | value :: _ => some value
    | [] => (k.profile [krb5ConfLibdefaults, option]).head?

/-- `conf_yes`. -/
def confYes : List String := ["y", "yes", "true", "t", "1", "on"]

/-- `conf_no`. -/
def confNo : List String := ["n", "no", "false", "nil", "0", "off"]

/-- `_krb5_conf_boolean`: `strcasecmp` against `conf_yes`, then `conf_no`; anything else
is false. -/
def krb5ConfBoolean (s : String) : Bool :=
  if confYes.any (·.toLower == s.toLower) then true
  else if confNo.any (·.toLower == s.toLower) then false
  else false

/-- `krb5_libdefault_boolean`; `none` where it returns an error. -/
def krb5LibdefaultBoolean (k : Context) (realm : Data) (option : String) : Option Bool :=
  (krb5LibdefaultString k realm option).map krb5ConfBoolean

/-! ## `make_preauth_list` -/

/-- `make_preauth_list`: one empty entry for each pre-auth type. -/
def makePreauthList (ptypes : List Int) : List PaData :=
  ptypes.map fun t => ⟨t, []⟩

/-! ## Reading the preference string -/

/-- `isspace` in the C locale. -/
def isCSpace (c : Char) : Bool :=
  c == ' ' || c == '\t' || c == '\n' || c == '\x0b' || c == '\x0c' || c == '\r'

/-- `LONG_MAX` and `LONG_MIN` of a 64-bit `long`. -/
def longMax : Int := 2 ^ 63 - 1

/-- `LONG_MIN`. -/
def longMin : Int := -2 ^ 63

/-- The value of a string of decimal digits. -/
def digitsValue (ds : List Char) : Int :=
  ds.foldl (fun acc c => 10 * acc + ((c.toNat - '0'.toNat : Nat) : Int)) 0

/-- The optional sign `strtol` accepts before the digits: whether it is `-`, and the rest. -/
def strtolSign : List Char → Bool × List Char
  | '-' :: t => (true, t)
  | '+' :: t => (false, t)
  | s => (false, s)

/-- `strtol(p, &q, 10)`: `none` when no digit follows the white space and the sign (then
`q == p`), otherwise the value, saturated at `LONG_MIN` and `LONG_MAX`, and the rest of
the string after the digits. -/
def strtol (p : List Char) : Option (Int × List Char) :=
  let signed := strtolSign (p.dropWhile isCSpace)
  match signed.2.takeWhile Char.isDigit with
  | [] => none
  | ds =>
    let v := if signed.1 then -digitsValue ds else digitsValue ds
    some (max longMin (min longMax v), signed.2.dropWhile Char.isDigit)

theorem strtolSign_length_le (s : List Char) : (strtolSign s).2.length ≤ s.length := by
  unfold strtolSign
  split <;> simp

theorem dropWhile_length_lt {α : Type} {p : α → Bool} {s : List α} (taken : s.takeWhile p ≠ []) :
    (s.dropWhile p).length < s.length := by
  have whole := congrArg List.length (List.takeWhile_append_dropWhile p s)
  have : 0 < (s.takeWhile p).length := List.length_pos.mpr taken
  simp only [List.length_append] at whole
  omega

/-- `strtol` consumes at least one character when it reads a number. -/
theorem strtol_rest_length_lt {p q : List Char} {l : Int} (read : strtol p = some (l, q)) :
    q.length < p.length := by
  unfold strtol at read
  have signed := strtolSign_length_le (p.dropWhile isCSpace)
  have spaces := (List.dropWhile_suffix isCSpace (l := p)).length_le
  dsimp only at read
  split at read
  · cases read
  · next notEmpty =>
    cases read
    have := dropWhile_length_lt notEmpty
    omega

/-! ## `sort_krb5_padata_sequence` -/

/-- The default preference when `preferred_preauth_types` is not set: PKINIT first. -/
def defaultPreauthTypes : String := "17, 16, 15, 14"

/-- `KRB5_CONF_PREFERRED_PREAUTH_TYPES`. -/
def krb5ConfPreferredPreauthTypes : String := "preferred_preauth_types"

/-- One round of the inner loop: the first entry at or after `base` whose type is `l`
bubbles to position `base`, and `base` moves past it; with no such entry nothing moves. -/
def bubbleToBase (padata : List PaData) (base : Nat) (l : Int) : List PaData × Nat :=
  let tail := padata.drop base
  match tail.find? (·.paType == l) with
  | none => (padata, base)
  | some entry => (padata.take base ++ entry :: tail.erase entry, base + 1)

/-- The scan of `sort_krb5_padata_sequence` over the rest `p` of the preference string. -/
def sortLoop (padata : List PaData) (base : Nat) (p : List Char) : List PaData :=
  match p with
  | [] => padata
  | c :: cs =>
    match skipped : (c :: cs).dropWhile (fun c => c == ',' || c == ' ') with
    | [] => padata
    | p' =>
      match read : strtol p' with
      | none => padata
      | some (l, q) =>
        have : q.length < (c :: cs).length :=
          Nat.lt_of_lt_of_le (strtol_rest_length_lt read) (skipped ▸ (List.dropWhile_suffix _).length_le)
        let (padata, base) := bubbleToBase padata base l
        sortLoop padata base q
termination_by p.length

/-- `sort_krb5_padata_sequence`: reorder a NULL-terminated pre-auth list so that the
types named in `preferred_preauth_types` for `realm` (or the default) come first. It
always returns 0, so the model returns only the list. -/
def sortKrb5PadataSequence (k : Context) (realm : Data) (padata : Option (List PaData)) :
    Option (List PaData) :=
  match padata with
  | none => none
  | some [] => some []
  | some list =>
    let preauthTypes := (krb5LibdefaultString k realm krb5ConfPreferredPreauthTypes).getD
      defaultPreauthTypes
    some (sortLoop list 0 (preauthTypes.toList.takeWhile (· != '\x00')))

theorem sortKrb5PadataSequence_isSome (k : Context) (realm : Data) (padata : Option (List PaData)) :
    (sortKrb5PadataSequence k realm padata).isSome = padata.isSome := by
  unfold sortKrb5PadataSequence
  split <;> rfl

end GetInTkt
