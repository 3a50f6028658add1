import WalletRows.Proofs.FileTree.Directories
import WalletRows.Proofs.Json.LastBracket
import WalletRows.Proofs.StoredRecords

/-!
# Torn files

A save that stops before its end leaves the first bytes of its text.  They may
break off inside a character, and then are no text at all, or they are a front
of the text, which lacks its last bracket.  Snapshots and settings are not read
from a text without its last bracket.  So what a torn save leaves is not loaded,
and a load gives the default settings and the reason.
-/

namespace WalletRows

namespace Json.Value

/-- The members of an object are written in front of its closing brace. -/
theorem SpellsMembers.endsInBracket {first : Bool}
    {members : List (String × Value)} {text : List Char}
    (spells : SpellsMembers first members text) : EndsInBracket text := by
  induction members generalizing first text with
  | nil =>
      rw [SpellsMembers] at spells
      obtain ⟨gap, -, rfl⟩ := spells
      exact ⟨gap, '}', .inr rfl, rfl⟩
  | cons member members ih =>
      rw [SpellsMembers] at spells
      obtain ⟨gap, written, member, later, -, -, -, spells, rfl⟩ := spells
      obtain ⟨front, closing, bracket, rfl⟩ := ih spells
      exact ⟨gap ++ '"' :: (member ++ front), closing, bracket, by simp⟩

theorem endsInBracket_pretty (members : List (String × Value)) :
    EndsInBracket (pretty (.object members)).toList := by
  have spells := spells_indented 0 (.object members)
  rw [Spells] at spells
  obtain ⟨inner, spells, same⟩ := spells
  obtain ⟨front, closing, bracket, rfl⟩ := spells.endsInBracket
  rw [pretty, String.toList_ofList, same]
  exact ⟨'{' :: front, closing, bracket, rfl⟩

end Json.Value

/-! ## The first bytes of a text -/

/-- What the first bytes of a text are as a text, unless they break off inside a
character. -/
def firstBytes? (text : String) (count : Nat) : Option String :=
  String.fromUTF8? (text.toUTF8.extract 0 count)

theorem toByteArray_of_firstBytes? {text cut : String} {count : Nat}
    (kept : firstBytes? text count = some cut) :
    cut.toByteArray = text.toByteArray.extract 0 count := by
  rw [firstBytes?, String.fromUTF8?] at kept
  split at kept
  · rw [← Option.some.inj kept, ← String.toUTF8_eq_toByteArray]
    rfl
  · cases kept

theorem isPrefix_of_firstBytes? {text cut : String} {count : Nat}
    (kept : firstBytes? text count = some cut) :
    cut.toList <+: text.toList := by
  have front := toByteArray_of_firstBytes? kept
  refine List.isPrefix_of_utf8Encode_append_eq_utf8Encode
    (text.toByteArray.extract count text.toByteArray.size) ?_
  rw [String.utf8Encode_toList, String.utf8Encode_toList, front,
    ByteArray.extract_append_extract, Nat.zero_min,
    ByteArray.extract_zero_max_size]

theorem ne_of_firstBytes? {text cut : String} {count : Nat}
    (kept : firstBytes? text count = some cut)
    (early : count < text.utf8ByteSize) : cut ≠ text := by
  rintro rfl
  have front := congrArg ByteArray.size (toByteArray_of_firstBytes? kept)
  rw [ByteArray.size_extract] at front
  rw [String.utf8ByteSize] at early
  omega

/-! ## Snapshots and settings -/

theorem Snapshot.needsLastBracket {text : String} {snapshot : Snapshot}
    (accepted : ofText text = .ok snapshot) :
    Json.NeedsLastBracket ofText text :=
  (Json.stopsAtBracket_record "WalletSnapshot" regular_fields {}).needsLastBracket
    accepted

namespace Settings

variable {settings : Settings} {tree torn final : FileTree} {path : String}
variable {strings : List (Phrase × String)} {palette : List (ColorRole × String)}

theorem needsLastBracket {text : String} (accepted : ofText text = .ok settings) :
    Json.NeedsLastBracket ofText text :=
  (Json.stopsAtBracket_record "AppConfig" regular_fields {}).needsLastBracket
    accepted

theorem exists_error_of_front
    (sameStrings : strings.Perm (replacedTexts settings.strings))
    (samePalette : palette.Perm (replacedTexts settings.palette)) {cut : String}
    (front : cut.toList <+:
      (settings.toJsonOrdered strings palette).pretty.toList)
    (shorter : cut ≠ (settings.toJsonOrdered strings palette).pretty) :
    ∃ error, ofText cut = .error error :=
  (needsLastBracket (ofText_pretty sameStrings samePalette)).refuses
    (Json.Value.endsInBracket_pretty _) front shorter

/-- What a save leaves that stops before the last byte of its text, which may be
written in any order of the replaced texts. -/
inductive Tears (settings : Settings) (tree : FileTree) (path : String) :
    FileTree → Prop
  | stop {strings : List (Phrase × String)}
      {palette : List (ColorRole × String)} {saved : FileTree} {place : Place}
      {count : Nat}
      (sameStrings : strings.Perm (replacedTexts settings.strings))
      (samePalette : palette.Perm (replacedTexts settings.palette))
      (saves : settings.saveOrdered strings palette tree path = .ok saved)
      (leads : tree.Leads path place)
      (early : count <
        (settings.toJsonOrdered strings palette).pretty.utf8ByteSize) :
      Tears settings tree path
        (tree.put place (.file
          (firstBytes? (settings.toJsonOrdered strings palette).pretty count)))

theorem Tears.exists_file (tears : Tears settings tree path torn) :
    ∃ place, tree.Leads path place ∧ tree.SameDirectories torn ∧
      ∃ content, torn.node? place = some (.file content) ∧
        ∀ cut, content = some cut → ∃ error, ofText cut = .error error := by
  obtain @⟨strings, palette, saved, place, count, sameStrings, samePalette,
    saves, leads, early⟩ := tears
  obtain ⟨there, leads', stores⟩ := exists_stores sameStrings samePalette saves
  obtain rfl := leads.unique leads'
  -- The whole save would have put a file there, so no directory is.
  have apart : tree.node? place ≠ some .directory := by
    intro directory
    obtain ⟨text, found, -⟩ := stores.holds
    rw [(stores.directories place).mp directory] at found
    cases found
  have inside : place ≠ [] := by
    rintro rfl
    exact apart rfl
  refine ⟨place, leads, FileTree.sameDirectories_put apart _, _,
    by rw [FileTree.node?_put tree inside, if_pos rfl], ?_⟩
  intro cut kept
  exact exists_error_of_front sameStrings samePalette
    (isPrefix_of_firstBytes? kept) (ne_of_firstBytes? kept early)

/-- What a torn save leaves is not read, by the bytes or by the brackets. -/
theorem exists_error_of_tears (tears : Tears settings tree path torn)
    {uses : List Use} (run : Uses torn uses final)
    (untouched : ∀ use ∈ uses, ¬ use.SavesTo torn path) :
    ∃ error, (error = .file .invalidText ∨ ∃ cause, error = .invalid cause) ∧
      loadFrom final path = .error error := by
  obtain ⟨place, leads, same, content, found, refused⟩ := tears.exists_file
  have leads := same.leads leads
  have reads : final.read path = final.textAt place :=
    (run.sameDirectories.leads leads).read
  rw [loadFrom, reads, FileTree.textAt, run.node?_eq leads untouched, found]
  cases content with
  | none => exact ⟨_, .inl rfl, rfl⟩
  | some cut =>
      obtain ⟨error, refused⟩ := refused cut rfl
      refine ⟨.invalid error, .inr ⟨error, rfl⟩, ?_⟩
      simp [ofContent, Except.mapError, bind, Except.bind, refused]

/-- The path of the settings file stays, and its directory is not made again. -/
theorem path_again {directories : Directories} {start other : FileTree}
    {file : String} (asked : Settings.path start directories = (tree, .ok file))
    (same : tree.SameDirectories other) :
    Settings.path other directories = (other, .ok file) := by
  rw [Settings.path] at asked ⊢
  split at asked
  · cases asked
  · split at asked
    · cases asked
    · rename_i makes
      obtain ⟨rfl, file⟩ := Prod.mk.inj asked
      rw [FileTree.makeDirectories_again makes same]
      exact congrArg (Prod.mk other) file

end Settings

/-- Snapshots and settings need the last bracket of their text.  So every front
of a written settings text is refused, and what a torn save leaves is refused
until the file is saved again: the default settings are loaded. -/
theorem torn_files_are_refused :
    (∀ text snapshot, Snapshot.ofText text = .ok snapshot →
      Json.NeedsLastBracket Snapshot.ofText text) ∧
    (∀ text settings, Settings.ofText text = .ok settings →
      Json.NeedsLastBracket Settings.ofText text) ∧
    (∀ (settings : Settings) strings palette,
      strings.Perm (replacedTexts settings.strings) →
      palette.Perm (replacedTexts settings.palette) →
      ∀ cut : String,
        cut.toList <+:
          (settings.toJsonOrdered strings palette).pretty.toList →
        cut ≠ (settings.toJsonOrdered strings palette).pretty →
        ∃ error, Settings.ofText cut = .error error) ∧
    (∀ settings tree path torn, Settings.Tears settings tree path torn →
      ∀ uses final, Settings.Uses torn uses final →
        (∀ use ∈ uses, ¬ use.SavesTo torn path) →
        ∃ error, (error = .file .invalidText ∨ ∃ cause, error = .invalid cause) ∧
          Settings.loadFrom final path = .error error ∧
          ∀ start directories,
            Settings.path start directories = (tree, .ok path) →
            Settings.load final directories =
              (final, ⟨{}, [.settingsNotLoaded error.message]⟩)) := by
  refine ⟨fun _ _ => Snapshot.needsLastBracket,
    fun _ _ => Settings.needsLastBracket, ?_, ?_⟩
  · intro settings strings palette sameStrings samePalette cut front shorter
    exact Settings.exists_error_of_front sameStrings samePalette front shorter
  · intro settings tree path torn tears uses final run untouched
    obtain ⟨error, cause, refused⟩ :=
      Settings.exists_error_of_tears tears run untouched
    refine ⟨error, cause, refused, ?_⟩
    intro start directories asked
    obtain ⟨-, -, same, -⟩ := tears.exists_file
    rw [Settings.load, Settings.path_again asked (same.trans run.sameDirectories)]
    exact congrArg (fun answer => (final, Settings.orDefault answer)) refused

/-- A snapshot text with a nested unknown value and a blank end needs its last
bracket, settings are not read from the empty front of theirs, and a save that
breaks off inside a character leaves the default settings to be loaded. -/
theorem torn_files_are_refused_inside_character :
    let settings : Settings :=
      { strings := replaceText (fun _ => none) .live "é" }
    let made : FileTree := ⟨[(["a", "txlens"], .directory), (["a"], .directory)]⟩
    let file := "/a/txlens/config.json"
    let torn := made.put ["a", "txlens", "config.json"] (.file none)
    Json.NeedsLastBracket Snapshot.ofText "\x7b\"x\":[\x7b\x7d]\x7d \n" ∧
      Json.NeedsLastBracket Settings.ofText "[]" ∧
      (∃ error, Settings.ofText "" = .error error) ∧
      firstBytes? settings.toJson.pretty 31 = none ∧
      Settings.Tears settings made file torn ∧
      ∃ events, Settings.load torn ⟨some "/a", none⟩ = (torn, ⟨{}, events⟩) := by
  intro settings made file torn
  have laws := torn_files_are_refused
  have broken : firstBytes? settings.toJson.pretty 31 = none := by
    decide +kernel
  have saves : settings.saveTo made file = .ok (made.put
      ["a", "txlens", "config.json"] (.file (some settings.toJson.pretty))) := by
    decide +kernel
  have tears : Settings.Tears settings made file torn := by
    have stopped := @Settings.Tears.stop settings made file _ _ _
      ["a", "txlens", "config.json"] 31 .rfl .rfl saves
      ⟨by decide +kernel, by decide +kernel⟩ (by decide +kernel)
    have same : firstBytes? (settings.toJsonOrdered
        (replacedTexts settings.strings)
        (replacedTexts settings.palette)).pretty 31 = none := broken
    rwa [same] at stopped
  refine ⟨laws.1 _ {} (by decide +kernel),
    laws.2.1 "[]" {} (by rfl), ?_, broken, tears, ?_⟩
  · refine laws.2.2.1 settings _ _ .rfl .rfl "" (by simp) ?_
    decide +kernel
  · obtain ⟨error, -, -, loads⟩ :=
      laws.2.2.2 settings made file torn tears [] torn (.none torn) (by simp)
    exact ⟨_, loads {} ⟨some "/a", none⟩ (by decide +kernel)⟩

end WalletRows
