import WalletRows.Proofs.FileTree.ReadWrite
import WalletRows.Proofs.Settings.Texts
import WalletRows.Settings.File

/-!
# Settings files that are saved and loaded

Settings are read back from their written form, in whatever order their texts
are written.  A save puts them at the place where its path leads and touches
nothing else; a load changes nothing.  So over every run of saves and loads, a
path holds the settings that were saved last to its file.
-/

namespace WalletRows

namespace Settings

variable {settings : Settings} {tree saved final : FileTree} {path : String}
variable {place : Place} {strings : List (Phrase × String)}
variable {palette : List (ColorRole × String)}

/-! ## Stored settings -/

theorem fills (sameStrings : strings.Perm (replacedTexts settings.strings))
    (samePalette : palette.Perm (replacedTexts settings.palette)) :
    Json.Fills fields (settings.toJsonOrdered strings palette).members {}
      settings :=
  .member (Json.readsBack_field (readsBack_texts sameStrings) _ _) <|
    .member (Json.readsBack_field (readsBack_texts samePalette) _ _) <|
    .member (Json.readsBack_field (Json.readsBack_choice _) _ _) <|
    .none _

theorem readsBack (sameStrings : strings.Perm (replacedTexts settings.strings))
    (samePalette : palette.Perm (replacedTexts settings.palette)) :
    Json.ReadsBack reader (settings.toJsonOrdered strings palette) settings :=
  Json.readsBack_record "AppConfig" (fills sameStrings samePalette) (by decide)

theorem ofText_pretty
    (sameStrings : strings.Perm (replacedTexts settings.strings))
    (samePalette : palette.Perm (replacedTexts settings.palette)) :
    ofText (settings.toJsonOrdered strings palette).pretty = .ok settings := by
  refine Json.decode_of_readsBack (readsBack sameStrings samePalette) ?_
  rw [Json.Value.pretty, String.toList_ofList]
  exact Json.Value.spells_indented 0 _

/-! ## One save and one load -/

/-- A file at a place has a text of given settings. -/
def Holds (tree : FileTree) (place : Place) (settings : Settings) : Prop :=
  ∃ text, tree.node? place = some (.file (some text)) ∧
    ofText text = .ok settings

/-- What saving settings at a place does to a tree. -/
structure Stores (tree : FileTree) (place : Place) (settings : Settings)
    (saved : FileTree) : Prop where
  holds : Holds saved place settings
  directories : tree.SameDirectories saved
  elsewhere : ∀ other, other ≠ place → saved.node? other = tree.node? other

theorem exists_stores
    (sameStrings : strings.Perm (replacedTexts settings.strings))
    (samePalette : palette.Perm (replacedTexts settings.palette))
    (saves : settings.saveOrdered strings palette tree path = .ok saved) :
    ∃ place, tree.Leads path place ∧ Stores tree place settings saved := by
  have writes : tree.write path
      (settings.toJsonOrdered strings palette).pretty = .ok saved := by
    rw [saveOrdered] at saves
    cases written : tree.write path
        (settings.toJsonOrdered strings palette).pretty with
    | error error => simp [written, Except.mapError] at saves
    | ok made => simpa [written, Except.mapError] using saves
  obtain ⟨place, leads, apart, rfl⟩ := FileTree.exists_place_of_write writes
  have inside : place ≠ [] := by
    rintro rfl
    exact apart rfl
  refine ⟨place, leads, ?_, FileTree.sameDirectories_put apart _, ?_⟩
  · exact ⟨_, by rw [FileTree.node?_put tree inside, if_pos rfl],
      ofText_pretty sameStrings samePalette⟩
  · intro other different
    rw [FileTree.node?_put tree inside, if_neg different]

theorem loadFrom_of_holds (leads : tree.Leads path place)
    (holds : Holds tree place settings) :
    loadFrom tree path = .ok settings := by
  obtain ⟨text, found, decoded⟩ := holds
  have reads := FileTree.read_eq_ok_iff.mpr ⟨place, leads, found⟩
  rw [loadFrom, reads]
  simp [ofContent, Except.mapError, bind, Except.bind, decoded]

/-! ## Runs -/

/-- A successful use of a settings file. -/
inductive Use where
  | save (path : String) (settings : Settings)
  /-- A load, with the settings that it returned. -/
  | load (path : String) (settings : Settings)

/-- Uses one after the other take a tree to another.  Each save writes its texts
in any order. -/
inductive Uses : FileTree → List Use → FileTree → Prop
  | none (tree : FileTree) : Uses tree [] tree
  | save {tree saved final : FileTree} {path : String} {settings : Settings}
      {strings : List (Phrase × String)} {palette : List (ColorRole × String)}
      {later : List Use}
      (sameStrings : strings.Perm (replacedTexts settings.strings))
      (samePalette : palette.Perm (replacedTexts settings.palette))
      (saves : settings.saveOrdered strings palette tree path = .ok saved)
      (others : Uses saved later final) :
      Uses tree (.save path settings :: later) final
  | load {tree final : FileTree} {path : String} {settings : Settings}
      {later : List Use} (loads : loadFrom tree path = .ok settings)
      (others : Uses tree later final) :
      Uses tree (.load path settings :: later) final

def Use.SavesTo (tree : FileTree) (path : String) : Use → Prop
  | .save other _ => tree.SameFile path other
  | .load .. => False

theorem Use.SavesTo.transport {other : FileTree} {use : Use}
    (same : tree.SameDirectories other) (savesTo : use.SavesTo tree path) :
    use.SavesTo other path := by
  cases use with
  | save twin settings => exact same.sameFile savesTo
  | load twin settings => exact savesTo

/-- The last of the uses that saves to the file of a path saves given
settings. -/
def LastSaved (tree : FileTree) (path : String) (uses : List Use)
    (settings : Settings) : Prop :=
  ∃ earlier other later, uses = earlier ++ .save other settings :: later ∧
    tree.SameFile path other ∧ ∀ use ∈ later, ¬ use.SavesTo tree path

/-- Two settings give every phrase the same wording and every role the same
color, in whatever orders the texts of the colors are taken. -/
structure ShowAlike (first second : Settings) : Prop where
  wording : ∀ phrase, first.locale.text phrase = second.locale.text phrase
  color : ∀ role texts others, texts.Perm (replacedTexts first.palette) →
    others.Perm (replacedTexts second.palette) →
    (Palette.ofTexts texts).value.resolve role =
      (Palette.ofTexts others).value.resolve role

theorem showAlike_refl (settings : Settings) : ShowAlike settings settings where
  wording _ := rfl
  color role texts others order order' := by
    rw [Palette.resolve_ofTexts order, Palette.resolve_ofTexts order']

namespace Uses

variable {uses first second : List Use}

theorem append_iff :
    Uses tree (first ++ second) final ↔
      ∃ middle, Uses tree first middle ∧ Uses middle second final := by
  induction first generalizing tree with
  | nil =>
      constructor
      · exact fun run => ⟨tree, .none tree, run⟩
      · rintro ⟨middle, start, run⟩
        cases start
        exact run
  | cons use first ih =>
      constructor
      · intro run
        cases run with
        | save sameStrings samePalette saves others =>
            obtain ⟨middle, start, run⟩ := ih.mp others
            exact ⟨middle, .save sameStrings samePalette saves start, run⟩
        | load loads others =>
            obtain ⟨middle, start, run⟩ := ih.mp others
            exact ⟨middle, .load loads start, run⟩
      · rintro ⟨middle, start, run⟩
        cases start with
        | save sameStrings samePalette saves others =>
            exact .save sameStrings samePalette saves (ih.mpr ⟨_, others, run⟩)
        | load loads others => exact .load loads (ih.mpr ⟨_, others, run⟩)

theorem sameDirectories (run : Uses tree uses final) :
    tree.SameDirectories final := by
  induction run with
  | none tree => exact fun _ => .rfl
  | save sameStrings samePalette saves others ih =>
      obtain ⟨place, -, stores⟩ := exists_stores sameStrings samePalette saves
      exact stores.directories.trans ih
  | load loads others ih => exact ih

/-- What stands at a place stays while no use saves there. -/
theorem node?_eq (run : Uses tree uses final) (leads : tree.Leads path place)
    (untouched : ∀ use ∈ uses, ¬ use.SavesTo tree path) :
    final.node? place = tree.node? place := by
  induction run with
  | none tree => rfl
  | @save tree saved final other settings _ _ later sameStrings samePalette
      saves others ih =>
      obtain ⟨there, leads', stores⟩ :=
        exists_stores sameStrings samePalette saves
      -- A save to the same place would be a save to the file of the path.
      have different : place ≠ there := by
        rintro rfl
        exact untouched _ List.mem_cons_self (.inr ⟨place, leads, leads'⟩)
      have still : ∀ use ∈ later, ¬ use.SavesTo saved path := by
        intro use member savesTo
        exact untouched use (List.mem_cons_of_mem _ member)
          (savesTo.transport stores.directories.symm)
      rw [ih (stores.directories.leads leads) still]
      exact stores.elsewhere place different
  | load loads others ih =>
      exact ih leads fun use member =>
        untouched use (List.mem_cons_of_mem _ member)

/-- After a run, a path is loaded with the settings last saved to its file. -/
theorem loadFrom_eq (run : Uses tree uses final)
    (last : LastSaved tree path uses settings) :
    loadFrom final path = .ok settings := by
  obtain ⟨earlier, other, later, rfl, same, untouched⟩ := last
  obtain ⟨before, start, run⟩ := append_iff.mp run
  cases run with
  | save sameStrings samePalette saves others =>
      rename_i saved _ _
      obtain ⟨place, leads', stores⟩ :=
        exists_stores sameStrings samePalette saves
      have directories : tree.SameDirectories saved :=
        start.sameDirectories.trans stores.directories
      have leads : saved.Leads path place :=
        (directories.sameFile same).leads (stores.directories.leads leads')
      have still : ∀ use ∈ later, ¬ use.SavesTo saved path := by
        intro use member savesTo
        exact untouched use member (savesTo.transport directories.symm)
      have holds : Holds final place settings := by
        rw [Holds, others.node?_eq leads still]
        exact stores.holds
      exact loadFrom_of_holds (others.sameDirectories.leads leads) holds

end Uses

/-- Settings are decoded from their written form in any order of their texts.
So over every run, a path is loaded with the settings last saved to its file,
which show what the saved ones do, and a run without one of its loads is a run
with the same results. -/
theorem last_saved_is_loaded :
    (∀ settings strings palette,
      strings.Perm (replacedTexts settings.strings) →
      palette.Perm (replacedTexts settings.palette) →
      ofText (settings.toJsonOrdered strings palette).pretty = .ok settings) ∧
    (∀ tree uses final, Uses tree uses final →
      ∀ path settings, LastSaved tree path uses settings →
        loadFrom final path = .ok settings) ∧
    (∀ tree earlier path loaded later final,
      Uses tree (earlier ++ .load path loaded :: later) final →
      Uses tree (earlier ++ later) final ∧
      ∀ settings, LastSaved tree path earlier settings →
        loaded = settings ∧ ShowAlike loaded settings) := by
  refine ⟨?_, ?_, ?_⟩
  · intro settings strings palette sameStrings samePalette
    exact ofText_pretty sameStrings samePalette
  · intro tree uses final run path settings last
    exact run.loadFrom_eq last
  · intro tree earlier path loaded later final run
    obtain ⟨middle, start, run⟩ := Uses.append_iff.mp run
    cases run with
    | load loads others =>
        refine ⟨Uses.append_iff.mpr ⟨middle, start, others⟩, ?_⟩
        intro settings last
        have same : loaded = settings :=
          Except.ok.inj (loads.symm.trans (start.loadFrom_eq last))
        exact ⟨same, same ▸ showAlike_refl loaded⟩

/-- A file that was saved to along two paths is loaded along a third with the
later settings. -/
theorem last_saved_along_aliases_is_loaded :
    let first : Settings := { layout := .transactionsPage }
    let second : Settings :=
      { strings := replaceText (fun _ => none) .live "\"Live\"\n"
        palette := replaceText (fun _ => none) .text "#ff8800" }
    let saves : List Use := [.save "/a" first, .save "//a" second]
    ∃ final, Uses {} (saves ++ [.load "/./a" second]) final ∧
      LastSaved {} "/./a" saves second ∧ Uses {} saves final ∧
      ofText second.toJson.pretty = .ok second := by
  intro first second saves
  let once : FileTree :=
    FileTree.put {} ["a"] (.file (some first.toJson.pretty))
  let twice : FileTree := once.put ["a"] (.file (some second.toJson.pretty))
  have saved : first.saveTo {} "/a" = .ok once := rfl
  have again : second.saveTo once "//a" = .ok twice := rfl
  have run : Uses {} saves twice :=
    .save .rfl .rfl saved (.save .rfl .rfl again (.none _))
  have last : LastSaved {} "/./a" saves second :=
    ⟨[.save "/a" first], "//a", [], rfl,
      .inr ⟨["a"], ⟨rfl, rfl⟩, ⟨rfl, rfl⟩⟩, by simp⟩
  have loads : loadFrom twice "/./a" = .ok second :=
    last_saved_is_loaded.2.1 {} saves twice run "/./a" second last
  have loaded : Uses {} (saves ++ [.load "/./a" second]) twice :=
    Uses.append_iff.mpr ⟨twice, run, .load loads (.none _)⟩
  have unloaded :=
    last_saved_is_loaded.2.2 {} saves "/./a" second [] twice loaded
  rw [List.append_nil] at unloaded
  exact ⟨twice, loaded, last, unloaded.1,
    last_saved_is_loaded.1 second _ _ .rfl .rfl⟩

end Settings

end WalletRows
