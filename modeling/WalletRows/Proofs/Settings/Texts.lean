import WalletRows.Proofs.Json.Decoding
import WalletRows.Settings

/-!
# Texts of choices in any order

Settings hold texts of choices, each choice at most once.  What is made of the
texts one after the other does not depend on their order if each text changes
only what its own choice shows.  Both the stored texts and the palette are made
in this way.
-/

namespace WalletRows

/-! ## The listed texts -/

section Listed

variable {α : Type} [Named α] {texts : α → Option String}

theorem mem_replacedTexts [LawfulNamed α] {choice : α} {text : String} :
    (choice, text) ∈ replacedTexts texts ↔ texts choice = some text := by
  simp only [replacedTexts, List.mem_filterMap, Option.map_eq_some_iff,
    Prod.mk.injEq]
  constructor
  · rintro ⟨_, -, _, found, rfl, rfl⟩
    exact found
  · intro found
    exact ⟨choice, LawfulNamed.mem_all choice, text, found, rfl, rfl⟩

theorem map_fst_replacedTexts (texts : α → Option String) :
    (replacedTexts texts).map Prod.fst =
      (Named.all : List α).filter fun choice => (texts choice).isSome := by
  rw [replacedTexts]
  induction (Named.all : List α) with
  | nil => rfl
  | cons choice choices ih =>
      cases found : texts choice <;> simp [found, ih]

theorem nodup_replacedTexts [LawfulNamed α] (texts : α → Option String) :
    ((replacedTexts texts).map Prod.fst).Nodup := by
  rw [map_fst_replacedTexts]
  exact LawfulNamed.nodup_all.filter _

end Listed

/-! ## Changes that keep to their choice -/

/-- Each text changes what a state shows at its own choice and nothing else. -/
def KeepsToChoice {σ α β : Type} [DecidableEq α]
    (step : σ → α × String → σ) (shown : σ → α → β)
    (change : String → β → β) : Prop :=
  ∀ state entry choice, shown (step state entry) choice =
    if choice = entry.1 then change entry.2 (shown state choice)
    else shown state choice

namespace KeepsToChoice

variable {σ α β : Type} [DecidableEq α] {step : σ → α × String → σ}
variable {shown : σ → α → β} {change : String → β → β}
variable {entries : List (α × String)} {choice : α}

theorem foldl_of_not_mem (keeps : KeepsToChoice step shown change)
    (absent : choice ∉ entries.map Prod.fst) (state : σ) :
    shown (entries.foldl step state) choice = shown state choice := by
  induction entries generalizing state with
  | nil => rfl
  | cons entry entries ih =>
      rw [List.map_cons, List.mem_cons, not_or] at absent
      rw [List.foldl_cons, ih absent.2, keeps, if_neg absent.1]

theorem foldl_of_mem (keeps : KeepsToChoice step shown change)
    (distinct : (entries.map Prod.fst).Nodup) {text : String}
    (member : (choice, text) ∈ entries) (state : σ) :
    shown (entries.foldl step state) choice =
      change text (shown state choice) := by
  induction entries generalizing state with
  | nil => cases member
  | cons entry entries ih =>
      rw [List.map_cons, List.nodup_cons] at distinct
      rw [List.foldl_cons]
      -- Only one entry has the key: the first one, or a later one.
      rcases List.mem_cons.mp member with rfl | later
      · rw [keeps.foldl_of_not_mem distinct.1, keeps, if_pos rfl]
      · have other : choice ≠ entry.1 := by
          rintro rfl
          exact distinct.1 (List.mem_map.mpr ⟨_, later, rfl⟩)
        rw [ih distinct.2 later, keeps, if_neg other]

/-- In any order, each choice shows the change of its own text. -/
theorem foldl_texts [Named α] [LawfulNamed α]
    (keeps : KeepsToChoice step shown change) {texts : α → Option String}
    (order : entries.Perm (replacedTexts texts)) (state : σ) (choice : α) :
    shown (entries.foldl step state) choice =
      ((texts choice).map change).getD id (shown state choice) := by
  have distinct : (entries.map Prod.fst).Nodup :=
    (order.map Prod.fst).nodup_iff.mpr (nodup_replacedTexts texts)
  cases found : texts choice with
  | none =>
      refine keeps.foldl_of_not_mem ?_ state
      intro member
      obtain ⟨⟨other, text⟩, listed, rfl⟩ := List.mem_map.mp member
      have given := mem_replacedTexts.mp (order.mem_iff.mp listed)
      rw [found] at given
      cases given
  | some text =>
      have member := order.mem_iff.mpr (mem_replacedTexts.mpr found)
      exact keeps.foldl_of_mem distinct member state

end KeepsToChoice

/-! ## Stored texts -/

theorem keepsToChoice_replaceText {α : Type} [DecidableEq α] :
    KeepsToChoice (fun texts entry => replaceText texts entry.1 entry.2)
      (fun (texts : α → Option String) => texts) fun text _ => some text :=
  fun _ _ _ => rfl

/-- Stored texts are read back from any order of them. -/
theorem readsBack_texts {α : Type} [Named α] [DecidableEq α] [LawfulNamed α]
    {texts : α → Option String} {entries : List (α × String)}
    (order : entries.Perm (replacedTexts texts)) :
    Json.ReadsBack textsReader (textsToJson entries) texts := by
  have back : Json.ReadsBack textsReader
      (.object (entries.map fun entry => (Named.name entry.1, .string entry.2)))
      (entries.foldl (fun texts entry => replaceText texts entry.1 entry.2)
        fun _ => none) :=
    Json.readsBack_map Named.name Json.Value.string Json.named_name
      Json.readsBack_text entries _
  have made : entries.foldl
      (fun texts entry => replaceText texts entry.1 entry.2)
      (fun _ => none) = texts := by
    funext choice
    rw [keepsToChoice_replaceText.foldl_texts order]
    cases texts choice <;> rfl
  rwa [made] at back

/-! ## The palette -/

namespace Palette

theorem value_ofTexts_go (palette : Palette)
    (texts : List (ColorRole × String)) :
    (ofTexts.go palette texts).value =
      texts.foldl (fun palette entry =>
        (palette.override entry.1 entry.2).value) palette := by
  induction texts generalizing palette with
  | nil => rfl
  | cons entry texts ih => exact ih _

theorem keepsToChoice_override :
    KeepsToChoice
      (fun palette entry => (override palette entry.1 entry.2).value)
      replaced fun text old => (Color.parse? text).or old := by
  intro palette entry choice
  cases read : Color.parse? entry.2 with
  | none => simp [override, read]
  | some color => simp [override, set, read]

/-- A role has the color of its own text if that is a color, whatever the order
in which the texts are taken. -/
theorem resolve_ofTexts {texts : ColorRole → Option String}
    {entries : List (ColorRole × String)}
    (order : entries.Perm (replacedTexts texts)) (role : ColorRole) :
    (ofTexts entries).value.resolve role =
      ((texts role).bind Color.parse?).getD role.defaultColor := by
  have made := keepsToChoice_override.foldl_texts order {} role
  rw [resolve, ofTexts, value_ofTexts_go, made]
  cases texts role <;> simp

end Palette

end WalletRows
