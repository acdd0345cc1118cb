import Mathlib.Data.List.Dedup
import Mathlib.Data.List.Induction
import WordStrip.Proofs.Settings

/-!
# Limits found by language

A limit is found whatever the case in which its language was given, and whatever the case in which it is
asked for. Of entries for one language in different cases the last one holds (`lastLimit?`).

Limits come into the settings on two ways. An object is read with its names put in lower case, and the
settings that are made of it put them in lower case again; settings can also be made of the entries
themselves. Both ways lead to the same limits, in the same order, since a name in lower case stays as it
is (`lowerKeys_lowerKeys`).
-/

namespace WordStrip

/-! ## Entries from pairs -/

namespace Entries

variable {α : Type}

/-- A key is found in the map as it is found from the end of the pairs: the last one holds. -/
theorem get?_ofPairs (pairs : List (String × α)) (key : String) :
    get? (ofPairs pairs) key = get? pairs.reverse key := by
  induction pairs using List.reverseRecOn with
  | nil => rfl
  | append_singleton pairs pair ih =>
    rw [ofPairs, List.foldl_append, List.foldl_cons, List.foldl_nil, get?_put, List.reverse_append,
      List.reverse_singleton, List.singleton_append, get?_cons]
    exact if_congr Iff.rfl rfl ih

/-- The keys of the map come in the order of their first pairs. -/
theorem keys_ofPairs (pairs : List (String × α)) :
    keys (ofPairs pairs) = (keys pairs).reverse.dedup.reverse := by
  induction pairs using List.reverseRecOn with
  | nil => rfl
  | append_singleton pairs pair ih =>
    rw [ofPairs, List.foldl_append, List.foldl_cons, List.foldl_nil, keys_append, List.reverse_append]
    show keys (put pair.1 pair.2 (ofPairs pairs)) = (pair.1 :: (keys pairs).reverse).dedup.reverse
    have seen : pair.1 ∈ keys (ofPairs pairs) ↔ pair.1 ∈ (keys pairs).reverse := by
      rw [ih, List.mem_reverse, List.mem_dedup]
    by_cases known : pair.1 ∈ keys (ofPairs pairs)
    · rw [keys_put_of_mem known, List.dedup_cons_of_mem (seen.mp known), ih]
    · rw [put_of_not_mem known, keys_append, List.dedup_cons_of_notMem (mt seen.mpr known),
        List.reverse_cons, ih]
      rfl

/-- A key is found among new names where the first entry is whose name becomes the key. -/
theorem get?_map (rename : String → String) (entries : Entries α) (key : String) :
    get? (entries.map fun (name, value) => (rename name, value)) key =
      (entries.find? fun entry => rename entry.1 == key).map (·.2) := by
  induction entries with
  | nil => rfl
  | cons entry rest ih =>
    rw [List.map_cons, get?_cons, List.find?_cons, ih]
    by_cases first : rename entry.1 = key
    · simp [first]
    · simp [beq_eq_false_iff_ne.mpr first, Ne.symm first]

end Entries

namespace Settings

variable {fields : List (String × Json)} {entries : Entries Int} {s : Settings}

/-! ## Limits by language -/

/-- The limit of the last entry for a language, in whatever case its name stands there. -/
def lastLimit? (entries : Entries Int) (language : String) : Option Int :=
  (entries.reverse.find? fun entry => Text.lower entry.1 == Text.lower language).map (·.2)

/-- The languages that have a limit come in the order of their first entries. -/
theorem keys_lowerKeys (entries : Entries Int) :
    Entries.keys (lowerKeys entries) =
      (entries.map fun entry => Text.lower entry.1).reverse.dedup.reverse := by
  rw [lowerKeys, Entries.keys_ofPairs, Entries.keys, List.map_map]
  rfl

theorem limit?_lowerKeys (entries : Entries Int) (language : String) :
    (lowerKeys entries).limit? language = lastLimit? entries language := by
  rw [SpaceLimits.limit?, lowerKeys, Entries.get?_ofPairs, ← List.map_reverse, Entries.get?_map,
    lastLimit?]

/-! ## Limits in an object -/

/-- The values of an object with limits. -/
def limitValues (entries : Entries Int) : List (String × Json) :=
  entries.map fun entry => (entry.1, .whole entry.2)

/-- Limits above zero are read as they are. -/
theorem readLimits_limitValues (positive : ∀ entry ∈ entries, 0 < entry.2) :
    readLimits (limitValues entries) = .ok entries := by
  rw [readLimits_eq_ok, EachGives, limitValues, List.forall₂_map_left_iff, List.forall₂_same]
  intro entry mem
  exact ⟨rfl, .whole (positive entry mem)⟩

theorem objectField_limitValues
    (given : Entries.get? fields limitsField = some (.object (limitValues entries))) :
    objectField fields limitsField = .ok (limitValues entries) :=
  objectField_eq_ok.mpr (.object given)

theorem hasLimits_limitValues (positive : ∀ entry ∈ entries, 0 < entry.2)
    (given : Entries.get? fields limitsField = some (.object (limitValues entries))) :
    HasLimits fields := by
  refine ⟨limitValues entries, .object given, fun value mem => ?_⟩
  obtain ⟨entry, known, rfl⟩ := List.mem_map.mp mem
  exact ⟨entry.2, .whole (positive entry known)⟩

/-- An object with limits above zero gives these limits, their names in lower case. -/
theorem spaceLimits_of_limitValues (positive : ∀ entry ∈ entries, 0 < entry.2)
    (given : Entries.get? fields limitsField = some (.object (limitValues entries)))
    (gives : Gives fields s) : s.spaceLimits = lowerKeys entries := by
  obtain ⟨values, limits, held, each, same⟩ := gives.limits
  obtain rfl : limitValues entries = values :=
    Except.ok.inj ((objectField_limitValues given).symm.trans (objectField_eq_ok.mpr held))
  obtain rfl : entries = limits :=
    Except.ok.inj ((readLimits_limitValues positive).symm.trans (readLimits_eq_ok.mpr each))
  exact same

/-- An object whose limits are whole numbers above zero is read exactly when its presets and its threshold
are those of settings. It gives the limits that settings have which are made of the entries themselves.
Every name is in lower case there, and the languages are in the order of their first entries. Asked for a
language in any case, the limit is that of the last entry for it in any case; there is none when there is
no such entry. -/
theorem limits_found_in_any_case (entries : Entries Int) (positive : ∀ entry ∈ entries, 0 < entry.2)
    (fields : List (String × Json))
    (given : Entries.get? fields limitsField = some (.object (limitValues entries))) :
    ((∃ s, ofFields fields = .ok s) ↔ ∃ presets, HasPresets fields presets ∧ HasStart fields presets) ∧
      ∀ s, ofFields fields = .ok s →
        (∀ threshold presets annotates,
          s.spaceLimits = (make threshold entries presets annotates).spaceLimits) ∧
        (∀ entry ∈ s.spaceLimits, Text.lower entry.1 = entry.1) ∧
        Entries.keys s.spaceLimits =
          (entries.map fun entry => Text.lower entry.1).reverse.dedup.reverse ∧
        ∀ language, s.spaceLimits.limit? language = lastLimit? entries language := by
  refine ⟨?_, fun s read => ?_⟩
  · have limits : HasLimits fields := hasLimits_limitValues positive given
    simp only [ofFields_eq_ok, exists_gives, Valid, and_iff_left limits]
  · have same : s.spaceLimits = lowerKeys entries :=
      spaceLimits_of_limitValues positive given (ofFields_eq_ok.mp read)
    rw [same]
    exact ⟨fun _ _ _ => rfl, fun entry mem => (lower_of_mem_lowerKeys mem).1, keys_lowerKeys entries,
      limit?_lowerKeys entries⟩

/-- Limits for German in two cases, and for Greek with a capital sigma, whose small form at the end of a
word is another one than inside. -/
def mixedLimits : Entries Int := [("DE", 12), ("ΕΛΛΑΣ", 20), ("de", 10), ("fi", 15)]

/-- They are read, and found in any case. -/
theorem limits_found_of_mixed :
    (∀ entry ∈ mixedLimits, 0 < entry.2) ∧
      ∃ s, ofFields [(limitsField, .object (limitValues mixedLimits))] = .ok s ∧
        Entries.keys s.spaceLimits = ["de", "ελλας", "fi"] ∧
        s.spaceLimits.limit? "De" = some 10 ∧ s.spaceLimits.limit? "Ελλας" = some 20 ∧
        s.spaceLimits.limit? "sv" = none := by
  have positive : ∀ entry ∈ mixedLimits, 0 < entry.2 := by decide
  obtain ⟨accepted, found⟩ := limits_found_in_any_case mixedLimits positive
    [(limitsField, .object (limitValues mixedLimits))] rfl
  obtain ⟨s, read⟩ := accepted.mpr ⟨[], ⟨.missing rfl, nofun⟩, nofun⟩
  obtain ⟨-, -, languages, limits⟩ := found s read
  refine ⟨positive, s, read, ?_, ?_, ?_, ?_⟩
  · rw [languages]
    decide +kernel
  all_goals
    rw [limits]
    decide +kernel

end Settings

end WordStrip
