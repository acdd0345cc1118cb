import WordStrip.Proofs.Memory
import WordStrip.Proofs.Text.Encoding

/-!
# Failures that callers are not told of

A caller that loads settings is told of four kinds of failure (`FailureKind.isDeclared`). The law here
says which of the others reach it (`Workspace.loadSettings_undeclared_iff`), whatever happened to the
workspace before. They come from three places, and `Undeclared` has a way for each of them: a text that
names no path, a path that the system refuses to walk, and a file whose bytes are those of no text
(`Encoding.exists_fault_iff`) or of a text beyond the limits of the reader. In a file tree nothing is
locked, so what a locked file or directory would add is not among them.

The stages behind these add none. A value that is no object is reported as such. What the validator
refuses is declared (`Workspace.isDeclared_of_refused`), and it is only ever asked about objects: an
object is what is read in the mode of settings, and what is remembered was read in its mode
(`Workspace.fetch_settings_object`).
-/

namespace WordStrip

open WordStrip.Files WordStrip.Text

/-- Whether a text was given up at a limit of the reader, and not for a fault of form. -/
def Json.ReadError.isLimit : Json.ReadError → Bool
  | malformed _ _ => false
  | tooManyDigits _ => true
  | tooDeep _ => true

theorem ParseError.isDeclared_unreadable (e : Json.ReadError) :
    (ParseError.unreadable e).kind.isDeclared = !e.isLimit := by
  cases e <;> rfl

/-- What bytes give by the plain rules in UTF-8, which need no reader from outside. -/
theorem Format.read_default (readers : Readers) (bytes : List UInt8) :
    ({} : Format).read readers bytes =
      match Encoding.utf8.decode bytes with
      | .error fault => .error (.undecodable fault)
      | .ok text => (Json.read text).mapError .unreadable := by
  have plain : holdsNull ({} : Format).encoding = false := by decide
  have decoder : ({} : Format).decoder readers =
      .ok fun bytes => (Encoding.utf8.decode bytes).mapError .undecodable := by
    have known : Encoding.ofName? ({} : Format).encoding = some .utf8 := by decide +kernel
    rw [Format.decoder, known]
  have rules : ({} : Format).rules readers = .ok fun text => (Json.read text).mapError .unreadable := rfl
  rw [Format.read, plain, if_neg Bool.false_ne_true, decoder, rules]
  simp only [ok_bind]
  cases Encoding.utf8.decode bytes <;> rfl

namespace Workspace

variable {w : Workspace} {call : Call} {e : LoadError}

/-! ## The ways -/

/-- The ways in which loading settings fails that callers are not told of. -/
inductive Undeclared (w : Workspace) (call : Call) : LoadError → Prop
  | nullInDirectory {base : String} (given : call.directory = some base)
      (null : holdsNull base = true) : Undeclared w call .nullCharacter
  | nullInName {directory : Path} (found : w.directory call = .ok directory)
      (null : holdsNull call.name = true) : Undeclared w call .nullCharacter
  | search {path : Path} (free : call.directory = none)
      (unnamed : namedDirectory? w.places w.environment = none)
      (long : nearestDirectory w.tree w.places.package = .error (.nameTooLong path)) :
      Undeclared w call (.noDirectory (.nameTooLong path))
  | walk {path : Path} (located : w.locate call = .ok path)
      (long : w.tree.failsToWalk path = true) : Undeclared w call (.nameTooLong path)
  | noText {path : Path} {file : File} {fault : DecodeFault} (finds : w.Finds call path file)
      (unknown : w.memory.lookup (call.key path file) = none)
      (undecodable : Encoding.utf8.decode file.bytes = .error fault) :
      Undeclared w call (.unparsed path (.undecodable fault))
  | limit {path : Path} {file : File} {text : String} {fault : Json.ReadError}
      (finds : w.Finds call path file) (unknown : w.memory.lookup (call.key path file) = none)
      (written : text.toUTF8.data.toList = file.bytes)
      (unread : Json.read text = .error fault) (limited : fault.isLimit = true) :
      Undeclared w call (.unparsed path (.unreadable fault))

/-! ## Stages -/

theorem readPath_eq_error {directory : Path} {text : String} :
    readPath directory text = .error e ↔ holdsNull text = true ∧ .nullCharacter = e := by
  unfold readPath Path.resolve?
  cases holdsNull text <;> simp

/-- Why a call has no directory. -/
theorem directory_eq_error :
    w.directory call = .error e ↔
      (∃ base, call.directory = some base ∧ holdsNull base = true ∧ .nullCharacter = e) ∨
        call.directory = none ∧ namedDirectory? w.places w.environment = none ∧
          ∃ fault, nearestDirectory w.tree w.places.package = .error fault ∧ .noDirectory fault = e := by
  unfold Workspace.directory
  cases call.directory with
  | some base => simp [readPath_eq_error]
  | none =>
    cases namedDirectory? w.places w.environment with
    | some p => simp
    | none => simp [mapError_eq_error]

/-- Why a call has no path: it has no directory, or its name names no path, or one outside. -/
theorem locate_eq_error :
    w.locate call = .error e ↔
      w.directory call = .error e ∨
        ∃ directory, w.directory call = .ok directory ∧
          (holdsNull call.name = true ∧ .nullCharacter = e ∨
            ∃ path, readPath directory (fileName call.name) = .ok path ∧
              path.isWithin directory = false ∧ .outside path directory = e) := by
  unfold locate
  rw [bind_eq_error]
  refine or_congr_right (exists_congr fun directory => and_congr_right fun _ => ?_)
  rw [bind_eq_error, readPath_eq_error, holdsNull_fileName]
  refine or_congr_right (exists_congr fun path => and_congr_right fun _ => ?_)
  cases path.isWithin directory <;> simp [pure, Except.pure, throw, throwThe, MonadExceptOf.throw]

/-! ## Settings -/

section Settings

variable {name : String} {given : Option String} {path : Path} {file : File} {document : Document}

theorem ofName?_settings (name : String) (given : Option String) :
    Mode.ofName? (settingsCall name given).mode = some .object := by
  show Mode.ofName? "validated_dict" = some .object
  decide

/-- What bytes give when settings are loaded: the fields of an object. -/
theorem read_settings (readers : Readers) (bytes : List UInt8) :
    ((settingsCall name given).key path file).read readers bytes =
      match Encoding.utf8.decode bytes with
      | .error fault => .error (.unparsed path (.undecodable fault))
      | .ok text =>
        match Json.read text with
        | .error fault => .error (.unparsed path (.unreadable fault))
        | .ok (.object fields) => .ok (.value (.object fields))
        | .ok value => .error (.badForm path (.notObject value.typeName)) := by
  have format : ((settingsCall name given).key path file).format = {} := rfl
  have known : Mode.ofName? ((settingsCall name given).key path file).mode = some .object :=
    ofName?_settings name given
  unfold Key.read
  rw [format, known, Format.read_default]
  cases Encoding.utf8.decode bytes with
  | error fault => rfl
  | ok text =>
    dsimp only
    cases Json.read text with
    | error fault => rfl
    | ok value => cases value <;> rfl

/-- Which bytes fail to be read for settings in a way that callers are not told of: those of no text, and
those of a text that the reader gives up at a limit. -/
theorem read_settings_undeclared_iff {readers : Readers} {bytes : List UInt8} :
    ((settingsCall name given).key path file).read readers bytes = .error e ∧
        e.kind.isDeclared = false ↔
      (∃ fault, Encoding.utf8.decode bytes = .error fault ∧ .unparsed path (.undecodable fault) = e) ∨
        ∃ (text : String) (fault : Json.ReadError), text.toUTF8.data.toList = bytes ∧
          Json.read text = .error fault ∧ fault.isLimit = true ∧
          .unparsed path (.unreadable fault) = e := by
  rw [read_settings]
  constructor
  · rintro ⟨failed, undeclared⟩
    split at failed
    case h_1 fault undecodable => exact .inl ⟨fault, undecodable, Except.error.inj failed⟩
    case h_2 text decoded =>
      split at failed
      case h_1 fault unread =>
        obtain rfl := Except.error.inj failed
        refine .inr ⟨text, fault, Encoding.decode_utf8_eq_ok.mp decoded, unread, ?_, rfl⟩
        simpa [LoadError.kind, ParseError.isDeclared_unreadable] using undeclared
      case h_2 => exact nomatch failed
      case h_3 =>
        obtain rfl := Except.error.inj failed
        exact nomatch undeclared
  · rintro (⟨fault, undecodable, rfl⟩ | ⟨text, fault, written, unread, limited, rfl⟩)
    · rw [undecodable]
      exact ⟨rfl, rfl⟩
    · rw [Encoding.decode_utf8_eq_ok.mpr written]
      dsimp only
      rw [unread]
      exact ⟨rfl, by simp [LoadError.kind, ParseError.isDeclared_unreadable, limited]⟩

/-- That settings have no file is declared, or one of the ways. -/
theorem Undeclared.of_misses (misses : w.Misses call e) (undeclared : e.kind.isDeclared = false) :
    Undeclared w call e := by
  cases misses with
  | unlocated failed =>
    rw [locate_eq_error, directory_eq_error] at failed
    rcases failed with (⟨base, stated, null, rfl⟩ | ⟨free, unnamed, fault, searched, rfl⟩) |
      ⟨directory, found, ⟨null, rfl⟩ | ⟨path, -, -, rfl⟩⟩
    · exact .nullInDirectory stated null
    · cases fault with
      | noneFound => exact nomatch undeclared
      | nameTooLong => exact .search free unnamed searched
    · exact .nullInName found null
    · exact nomatch undeclared
  | unwalked located long => exact .walk located long
  | absent => exact nomatch undeclared

/-- Nothing can be fetched for settings, and callers are not told of it, in the given ways. -/
theorem fetch_settings_undeclared_iff :
    (w.fetch (settingsCall name given)).1 = .error e ∧ e.kind.isDeclared = false ↔
      Undeclared w (settingsCall name given) e := by
  rw [fst_fetch_eq_error]
  constructor
  · rintro ⟨misses | ⟨path, file, finds, unknown, failed⟩, undeclared⟩
    · exact .of_misses misses undeclared
    · rcases read_settings_undeclared_iff.mp ⟨failed, undeclared⟩ with
        ⟨fault, undecodable, rfl⟩ | ⟨text, fault, written, unread, limited, rfl⟩
      · exact .noText finds unknown undecodable
      · exact .limit finds unknown written unread limited
  · intro way
    cases way with
    | nullInDirectory stated null =>
      refine ⟨.inl (.unlocated (locate_eq_error.mpr (.inl (directory_eq_error.mpr ?_)))), rfl⟩
      exact .inl ⟨_, stated, null, rfl⟩
    | nullInName found null =>
      refine ⟨.inl (.unlocated (locate_eq_error.mpr (.inr ⟨_, found, ?_⟩))), rfl⟩
      exact .inl ⟨null, rfl⟩
    | search free unnamed long =>
      refine ⟨.inl (.unlocated (locate_eq_error.mpr (.inl (directory_eq_error.mpr ?_)))), rfl⟩
      exact .inr ⟨free, unnamed, _, long, rfl⟩
    | walk located long => exact ⟨.inl (.unwalked located long), rfl⟩
    | noText finds unknown undecodable =>
      obtain ⟨failed, undeclared⟩ := read_settings_undeclared_iff.mpr (.inl ⟨_, undecodable, rfl⟩)
      exact ⟨.inr ⟨_, _, finds, unknown, failed⟩, undeclared⟩
    | limit finds unknown written unread limited =>
      obtain ⟨failed, undeclared⟩ :=
        read_settings_undeclared_iff.mpr (.inr ⟨_, _, written, unread, limited, rfl⟩)
      exact ⟨.inr ⟨_, _, finds, unknown, failed⟩, undeclared⟩

/-- Whatever a validator refuses an object for is declared. -/
theorem isDeclared_of_refused {α : Type} {validator : Validator α} {fields : List (String × Json)}
    (refused : validate (settingsCall name given).mode validator path (.value (.object fields)) =
      .error e) : e.kind.isDeclared = true := by
  unfold validate at refused
  dsimp only at refused
  rw [if_pos (ofName?_settings name given), mapError_eq_error] at refused
  obtain ⟨refusal, -, rfl⟩ := refused
  cases refusal <;> rfl

theorem read_settings_object {readers : Readers} {bytes : List UInt8}
    (read : ((settingsCall name given).key path file).read readers bytes = .ok document) :
    ∃ fields, document = .value (.object fields) := by
  rw [read_settings] at read
  split at read
  case h_1 => exact nomatch read
  case h_2 =>
    split at read
    case h_1 => exact nomatch read
    case h_2 fields _ => exact ⟨fields, (Except.ok.inj read).symm⟩
    case h_3 => exact nomatch read

/-- What is fetched for settings is an object, also if it was remembered. -/
theorem fetch_settings_object {start : Workspace} (fresh : start.memory = []) {past : List Action}
    (fetched : ((start.after past).fetch (settingsCall name given)).1 = .ok (path, document)) :
    ∃ fields, document = .value (.object fields) := by
  obtain ⟨file, known | read⟩ := exists_file_of_fetch fetched
  · obtain ⟨_, old, -, -, -, read⟩ := learned_after fresh past _ _ (mem_of_lookup known)
    exact read_settings_object read
  · exact read_settings_object read

end Settings

/-- Loading settings fails undeclared where nothing can be fetched: what is fetched is an object. -/
theorem fst_loadSettings_undeclared_iff {start : Workspace} (fresh : start.memory = [])
    (past : List Action) (name : String) (given : Option String) :
    ((start.after past).loadSettings name given).1 = .error e ∧ e.kind.isDeclared = false ↔
      ((start.after past).fetch (settingsCall name given)).1 = .error e ∧
        e.kind.isDeclared = false := by
  refine and_congr_left fun undeclared => ?_
  unfold loadSettings
  rw [fst_loadWith_eq_error]
  refine or_iff_left ?_
  rintro ⟨path, document, fetched, refused⟩
  obtain ⟨fields, rfl⟩ := fetch_settings_object fresh fetched
  rw [isDeclared_of_refused refused] at undeclared
  exact nomatch undeclared

/-- Loading settings fails in a way that callers are not told of exactly in the given ways, whatever was
done before and whatever readers come from outside. A file that is found and not remembered makes it fail so exactly when its bytes are those of
no text, or of a text beyond the limits of the reader. -/
theorem loadSettings_undeclared_iff {start : Workspace} (fresh : start.memory = [])
    (past : List Action) (name : String) (given : Option String) :
    let w := start.after past
    let call := settingsCall name given
    (∀ e, (w.loadSettings name given).1 = .error e ∧ e.kind.isDeclared = false ↔
        Undeclared w call e) ∧
      ∀ path file, w.Finds call path file → w.memory.lookup (call.key path file) = none →
        ((∃ e, (w.loadSettings name given).1 = .error e ∧ e.kind.isDeclared = false) ↔
          (∀ text : String, text.toUTF8.data.toList ≠ file.bytes) ∨
            ∃ (text : String) (fault : Json.ReadError), text.toUTF8.data.toList = file.bytes ∧
              Json.read text = .error fault ∧ fault.isLimit = true) := by
  intro w call
  constructor
  · intro e
    exact (fst_loadSettings_undeclared_iff fresh past name given).trans fetch_settings_undeclared_iff
  · intro path file finds unknown
    have same (e : LoadError) :
        (w.loadSettings name given).1 = .error e ∧ e.kind.isDeclared = false ↔
          (call.key path file).read w.readers file.bytes = .error e ∧
            e.kind.isDeclared = false := by
      refine (fst_loadSettings_undeclared_iff fresh past name given).trans ?_
      show (w.fetch call).1 = .error e ∧ _ ↔ _
      rw [finds.fst_fetch unknown, map_eq_error]
    rw [exists_congr fun e => (same e).trans read_settings_undeclared_iff, ← Encoding.exists_fault_iff]
    constructor
    · rintro ⟨e, ⟨fault, undecodable, -⟩ | ⟨text, fault, written, unread, limited, -⟩⟩
      · exact .inl ⟨fault, undecodable⟩
      · exact .inr ⟨text, fault, written, unread, limited⟩
    · rintro (⟨fault, undecodable⟩ | ⟨text, fault, written, unread, limited⟩)
      · exact ⟨_, .inl ⟨fault, undecodable, rfl⟩⟩
      · exact ⟨_, .inr ⟨text, fault, written, unread, limited, rfl⟩⟩

/-- The document of settings is written with one byte that begins no text, after another was loaded. -/
def brokenSettings : List Action :=
  let path : Path := ⟨["suggest_config.json"]⟩
  [.write path ⟨[0x7B, 0x7D], 1⟩, .loadSettings settingsName (some "/"), .write path ⟨[0xFF], 2⟩]

/-- Loading the broken settings fails, and its caller is not told of such a failure. -/
theorem brokenSettings_undeclared :
    let e : LoadError :=
      .unparsed ⟨["suggest_config.json"]⟩ (.undecodable ⟨.invalidStart, 0xFF, 0, 1⟩)
    bare.memory = [] ∧
      ((bare.after brokenSettings).loadSettings settingsName (some "/")).1 = .error e ∧
      e.kind.isDeclared = false := by
  intro e
  have finds : (bare.after brokenSettings).Finds (settingsCall settingsName (some "/"))
      ⟨["suggest_config.json"]⟩ ⟨[0xFF], 2⟩ :=
    ⟨by decide +kernel, by decide +kernel, by decide +kernel⟩
  have unknown : (bare.after brokenSettings).memory.lookup
      ((settingsCall settingsName (some "/")).key ⟨["suggest_config.json"]⟩ ⟨[0xFF], 2⟩) = none :=
    Option.isNone_iff_eq_none.mp (by decide +kernel)
  have undecodable : Encoding.utf8.decode [0xFF] = .error ⟨.invalidStart, 0xFF, 0, 1⟩ := by
    decide +kernel
  have fresh : bare.memory = [] := rfl
  have law := loadSettings_undeclared_iff fresh brokenSettings settingsName (some "/")
  exact ⟨fresh, (law.1 e).mpr (.noText finds unknown undecodable)⟩

end Workspace

end WordStrip
