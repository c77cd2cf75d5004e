import GetInTkt.Padata

/-!
# The order `sort_krb5_padata_sequence` leaves

The spec states the result of the sort without its scan: read the preferred types from
the preference string one number at a time, take for each the first entry of that type not
yet taken, and leave the others in their order behind the taken ones. The scan of the code
interleaves reading the string with bubbling entries to the front. It computes exactly
that:
* the scan is bubbling over the list of numbers the string holds (`sortLoop_eq_foldl`);
* bubbling keeps the taken entries in front, in the order taken, and the rest behind in
  their order (`foldl_bubbleToBase`).

The preference string is the spec's too (`configuredPreauthTypes`): the configured
`preferred_preauth_types`, looked up in the profile as `krb5_libdefault_string` looks it
up, else the default (`krb5LibdefaultString_preferred`).

Results:
1. `sortKrb5PadataSequence_preferred_first`: the sort of any list under any configuration
   is the selection, for the configured preference string, followed by the rest.
2. `sortKrb5PadataSequence_perm`: the sort only reorders; no entry is lost or doubled.
-/

namespace GetInTkt

/-- The preferred types as the spec reads them from a preference string: skip `,` and ` `,
read a number with `strtol`, and go on after it, up to the first place (the end of the
string included) where no number can be read. -/
def specPreauthTokens (p : List Char) : List Int :=
  match read : strtol (p.dropWhile (fun c => c == ',' || c == ' ')) with
  | none => []
  | some (l, q) =>
    have : q.length < p.length :=
      Nat.lt_of_lt_of_le (strtol_rest_length_lt read) (List.dropWhile_suffix _).length_le
    l :: specPreauthTokens q
termination_by p.length

/-- The spec's order, as the entries taken and the rest: for each preferred type in turn,
the first entry not yet taken that has it is taken; the rest keep their order. -/
def specSelect : List PaData → List Int → List PaData × List PaData
  | padata, [] => ([], padata)
  | padata, t :: ts =>
    match padata.find? (·.paType == t) with
    | none => specSelect padata ts
    | some entry =>
      let r := specSelect (padata.erase entry) ts
      (entry :: r.1, r.2)

theorem specSelect_nil (ts : List Int) : specSelect [] ts = ([], []) := by
  induction ts with
  | nil => rfl
  | cons t ts ih => exact ih

/-! ## The scan reads the numbers in order -/

theorem strtol_nil : strtol [] = none := rfl

section Scan
variable {p q : List Char} {l : Int}

theorem specPreauthTokens_of_none
    (noNumber : strtol (p.dropWhile (fun c => c == ',' || c == ' ')) = none) :
    specPreauthTokens p = [] := by
  rw [specPreauthTokens]
  split <;> simp_all

theorem specPreauthTokens_of_some
    (read : strtol (p.dropWhile (fun c => c == ',' || c == ' ')) = some (l, q)) :
    specPreauthTokens p = l :: specPreauthTokens q := by
  rw [specPreauthTokens]
  split <;> simp_all

/-- Where no number can be read (the end of the string included), the scan stops. -/
theorem sortLoop_of_none (padata : List PaData) (base : Nat)
    (noNumber : strtol (p.dropWhile (fun c => c == ',' || c == ' ')) = none) :
    sortLoop padata base p = padata := by
  rw [sortLoop.eq_def]
  split
  · rfl
  · split
    · rfl
    · split <;> simp_all

/-- Where a number is read, the scan bubbles it and goes on after it. -/
theorem sortLoop_of_some (padata : List PaData) (base : Nat)
    (read : strtol (p.dropWhile (fun c => c == ',' || c == ' ')) = some (l, q)) :
    sortLoop padata base p =
      sortLoop (bubbleToBase padata base l).1 (bubbleToBase padata base l).2 q := by
  rw [sortLoop.eq_def]
  split
  · rw [List.dropWhile_nil, strtol_nil] at read; cases read
  · split
    · next skipped => rw [skipped, strtol_nil] at read; cases read
    · split <;> simp_all

end Scan

/-- The scan of the preference string is bubbling for each number it holds, in order. -/
theorem sortLoop_eq_foldl (padata : List PaData) (base : Nat) (p : List Char) :
    sortLoop padata base p =
      ((specPreauthTokens p).foldl (fun acc l => bubbleToBase acc.1 acc.2 l) (padata, base)).1 := by
  induction p using specPreauthTokens.induct generalizing padata base with
  | case1 p noNumber =>
    rw [sortLoop_of_none padata base noNumber, specPreauthTokens_of_none noNumber]
    rfl
  | case2 p l q read _ ih =>
    rw [sortLoop_of_some padata base read, specPreauthTokens_of_some read, List.foldl_cons, ih]

/-! ## Bubbling takes entries in the spec's order -/

/-- Bubbling from the end of the taken prefix leaves the taken entries in front, then those
the spec takes, then the spec's rest. -/
theorem foldl_bubbleToBase (ts : List Int) (taken rest : List PaData) :
    (ts.foldl (fun acc l => bubbleToBase acc.1 acc.2 l) (taken ++ rest, taken.length)).1 =
      taken ++ (specSelect rest ts).1 ++ (specSelect rest ts).2 := by
  induction ts generalizing taken rest with
  | nil => simp [specSelect]
  | cons t ts ih =>
    simp only [List.foldl_cons, bubbleToBase, List.drop_left, List.take_left, specSelect]
    split
    · next none => simpa [none] using ih taken rest
    · next entry found => simpa [found] using ih (taken ++ [entry]) (rest.erase entry)

/-! ## The configured preference string -/

/-- The preference string of the realm: `preferred_preauth_types` in the realm's
subsection of `[libdefaults]`, else in `[libdefaults]` itself, else the default
`"17, 16, 15, 14"`. A realm name longer than the 1023 bytes the lookup copies gets the
default. -/
def configuredPreauthTypes (k : Context) (realm : Data) : String :=
  if realm.length > 1023 then "17, 16, 15, 14"
  else (k.profile ["libdefaults", realm.toCString, "preferred_preauth_types"] ++
    k.profile ["libdefaults", "preferred_preauth_types"]).headD "17, 16, 15, 14"

/-- `krb5_libdefault_string` finds the configured preference string. -/
theorem krb5LibdefaultString_preferred (k : Context) (realm : Data) :
    (krb5LibdefaultString k realm krb5ConfPreferredPreauthTypes).getD defaultPreauthTypes =
      configuredPreauthTypes k realm := by
  unfold krb5LibdefaultString configuredPreauthTypes
  split
  · rfl
  · simp only [krb5ConfLibdefaults, krb5ConfPreferredPreauthTypes]
    split <;> next found => simp [found, defaultPreauthTypes]

/-- `sort_krb5_padata_sequence` ends, and leaves any pre-auth list as the entries the spec
takes for the preferred types of the configured `preferred_preauth_types` (or the default
`"17, 16, 15, 14"`), followed by the others in their order. -/
theorem sortKrb5PadataSequence_preferred_first (k : Context) (realm : Data)
    (padata : List PaData) :
    let r := specSelect padata
      (specPreauthTokens ((configuredPreauthTypes k realm).toList.takeWhile (· != '\x00')))
    sortKrb5PadataSequence k realm (some padata) = some (r.1 ++ r.2) := by
  intro r
  cases padata with
  | nil => simp [sortKrb5PadataSequence, r, specSelect_nil]
  | cons entry entries =>
    simp only [sortKrb5PadataSequence, sortLoop_eq_foldl, krb5LibdefaultString_preferred]
    simpa using foldl_bubbleToBase _ [] (entry :: entries)

/-! ## The sort only reorders -/

/-- Bubbling moves one entry to the front of the untaken part and loses none. -/
theorem bubbleToBase_perm (padata : List PaData) (base : Nat) (l : Int) :
    (bubbleToBase padata base l).1.Perm padata := by
  unfold bubbleToBase
  dsimp only
  split
  · exact .refl padata
  · next entry found =>
    have moved : (entry :: (padata.drop base).erase entry).Perm (padata.drop base) :=
      (List.perm_cons_erase (List.mem_of_find?_eq_some found)).symm
    calc (padata.take base ++ entry :: (padata.drop base).erase entry).Perm
          (padata.take base ++ padata.drop base) := moved.append_left _
      _ = padata := List.take_append_drop base padata

theorem foldl_bubbleToBase_perm (ts : List Int) (acc : List PaData × Nat) :
    (ts.foldl (fun acc l => bubbleToBase acc.1 acc.2 l) acc).1.Perm acc.1 := by
  induction ts generalizing acc with
  | nil => exact .refl _
  | cons t ts ih => exact (ih _).trans (bubbleToBase_perm _ _ _)

/-- Under any configuration, `sort_krb5_padata_sequence` returns a reordering of the list it
is given: the pre-auth types offered to the KDC are exactly those it sent. -/
theorem sortKrb5PadataSequence_perm (k : Context) (realm : Data) (padata : List PaData) :
    ∃ sorted, sortKrb5PadataSequence k realm (some padata) = some sorted ∧ sorted.Perm padata := by
  cases padata with
  | nil => exact ⟨[], rfl, .nil⟩
  | cons entry entries =>
    refine ⟨_, rfl, ?_⟩
    rw [sortLoop_eq_foldl]
    exact foldl_bubbleToBase_perm _ _

end GetInTkt
