import WalletRows.Proofs.Settings.Texts
import WalletRows.Row.Lines

/-!
# Palettes resolve role by role

A palette is made of texts, one role after the other, and may then be given
further colors.  One step changes the color of one role, so after any run of steps
a role has the color that it was given last; a text that is no color is noticed
once and is no step at all.  A row in turn looks at four roles, and its lines are
the same for two palettes exactly if these look the same.
-/

namespace WalletRows

namespace Palette

variable {palette other : Palette} {role : ColorRole}

/-! ## Colors given one after the other -/

def setAll (palette : Palette) (given : List (ColorRole × Color)) : Palette :=
  given.foldl (fun palette entry => palette.set entry.1 entry.2) palette

def colorFor? (role : ColorRole) (entry : ColorRole × Color) : Option Color :=
  if entry.1 = role then some entry.2 else none

/-- The color that a role is given last. -/
def lastColor? (given : List (ColorRole × Color)) (role : ColorRole) :
    Option Color :=
  (given.filterMap (colorFor? role)).getLast?

theorem lastColor?_cons (entry : ColorRole × Color)
    (given : List (ColorRole × Color)) (role : ColorRole) :
    lastColor? (entry :: given) role =
      (lastColor? given role).or (colorFor? role entry) := by
  unfold lastColor?
  cases color : colorFor? role entry with
  | none => rw [List.filterMap_cons_none color, Option.or_none]
  | some color' =>
      rw [List.filterMap_cons_some color, List.getLast?_cons]
      cases (given.filterMap (colorFor? role)).getLast? <;> rfl

theorem resolve_set (palette : Palette) (entry : ColorRole × Color)
    (role : ColorRole) :
    (palette.set entry.1 entry.2).resolve role =
      (colorFor? role entry).getD (palette.resolve role) := by
  by_cases same : entry.1 = role
  · simp [resolve, set, colorFor?, same]
  · simp [resolve, set, colorFor?, same, Ne.symm same]

theorem resolve_setAll (palette : Palette) (given : List (ColorRole × Color))
    (role : ColorRole) :
    (palette.setAll given).resolve role =
      (lastColor? given role).getD (palette.resolve role) := by
  induction given generalizing palette with
  | nil => rfl
  | cons entry given ih =>
      rw [setAll, List.foldl_cons, ← setAll, ih, resolve_set, lastColor?_cons]
      cases lastColor? given role <;> rfl

/-! ## Texts that are no colors -/

def isReadable (entry : ColorRole × String) : Bool :=
  (Color.parse? entry.2).isSome

theorem override_of_not_isReadable {entry : ColorRole × String}
    (unreadable : isReadable entry = false) (palette : Palette) :
    palette.override entry.1 entry.2 =
      ⟨palette, [.invalidColor entry.2 entry.1]⟩ := by
  rw [isReadable, Option.isSome_eq_false_iff, Option.isNone_iff_eq_none]
    at unreadable
  rw [override, unreadable]

theorem events_override_of_isReadable {entry : ColorRole × String}
    (readable : isReadable entry = true) (palette : Palette) :
    (palette.override entry.1 entry.2).events = [] := by
  obtain ⟨color, read⟩ := Option.isSome_iff_exists.mp readable
  rw [override, read]

theorem events_ofTexts_go (palette : Palette)
    (entries : List (ColorRole × String)) :
    (ofTexts.go palette entries).events =
      (entries.filter fun entry => !isReadable entry).map fun entry =>
        .invalidColor entry.2 entry.1 := by
  induction entries generalizing palette with
  | nil => rfl
  | cons entry entries ih =>
      have step : (ofTexts.go palette (entry :: entries)).events =
          (palette.override entry.1 entry.2).events ++
            (ofTexts.go (palette.override entry.1 entry.2).value
              entries).events := rfl
      rw [step, ih]
      cases readable : isReadable entry with
      | true => simp [events_override_of_isReadable readable, readable]
      | false => simp [override_of_not_isReadable readable, readable]

/-- Entries whose texts are no colors may be left out. -/
theorem value_ofTexts_filter {entries : List (ColorRole × String)}
    {kept : ColorRole × String → Bool}
    (unreadable : ∀ entry ∈ entries, kept entry = false →
      isReadable entry = false) :
    (ofTexts (entries.filter kept)).value = (ofTexts entries).value := by
  rw [ofTexts, ofTexts, value_ofTexts_go, value_ofTexts_go]
  generalize ({} : Palette) = palette
  induction entries generalizing palette with
  | nil => rfl
  | cons entry entries ih =>
      rw [List.forall_mem_cons] at unreadable
      cases keeps : kept entry with
      | true =>
          rw [List.filter_cons_of_pos keeps, List.foldl_cons, List.foldl_cons]
          exact ih unreadable.2 _
      | false =>
          have skipped := override_of_not_isReadable (unreadable.1 keeps) palette
          rw [List.filter_cons_of_neg (by simp [keeps]), List.foldl_cons, skipped]
          exact ih unreadable.2 _

end Palette

/-! ## The roles that a row looks at -/

/-- Two palettes look the same to a row: in the color of plain text, in those of
its status and its label, and in that of details if it has any. -/
structure Row.LooksAlike (row : Row) (palette other : Palette) : Prop where
  text : other.resolve .text = palette.resolve .text
  status : ∀ role ∈ row.status.color, other.resolve role = palette.resolve role
  label : other.resolve row.statusLabelColor =
    palette.resolve row.statusLabelColor
  details : row.details ≠ [] →
    other.resolve .grayText2 = palette.resolve .grayText2

theorem Style.colored_inj {color other : Color} :
    Style.colored color = Style.colored other ↔ color = other := by
  simp [Style.colored]

/-- The lines of a row are the same for two palettes exactly if these look the same
to it. -/
theorem Row.lines_eq_iff (row : Row) (palette other : Palette) :
    row.lines other = row.lines palette ↔ row.LooksAlike palette other := by
  constructor
  · intro same
    obtain ⟨head, tail⟩ := List.cons.inj same
    have spans := congrArg StyledLine.spans head
    simp only [headLine, List.cons_append, List.nil_append, List.cons.injEq,
      Span.mk.injEq, Style.mk.injEq, Option.some.injEq, Style.colored_inj,
      true_and, and_true] at spans
    obtain ⟨accent, text, label⟩ := spans
    refine ⟨text, ?_, label, ?_⟩
    · intro role found
      rw [Option.mem_def] at found
      rwa [found] at accent
    · intro listed
      obtain ⟨first, others, details⟩ := List.exists_cons_of_ne_nil listed
      rw [detailLine?, detailLine?, details] at tail
      have style := congrArg StyledLine.style (List.cons.inj tail).1
      exact Style.colored_inj.mp style
  · intro alike
    have accent : other.resolveOr row.status.color (other.resolve .text) =
        palette.resolveOr row.status.color (palette.resolve .text) := by
      rw [alike.text]
      cases found : row.status.color with
      | none => rfl
      | some role => exact alike.status role found
    have head : row.headLine other = row.headLine palette := by
      rw [headLine, headLine, accent, alike.text, alike.label]
    have details : row.detailLine? other = row.detailLine? palette := by
      rw [detailLine?, detailLine?]
      cases listed : row.details with
      | nil => rfl
      | cons first others =>
          rw [alike.details (by rw [listed]; exact List.cons_ne_nil _ _)]
    rw [lines, lines, head, details]

/-- A role has the color that it was given last, else that of its text if this is
a color, and else its own, in whatever order the texts were taken.  Each text that
is no color is warned of once, and with or without any such text the palette is
the same.  The lines of a row change only with the color of plain text, of its
status, of its label or of its details. -/
theorem palettes_resolve_by_role :
    (∀ (texts : ColorRole → Option String) (entries : List (ColorRole × String))
      (given : List (ColorRole × Color)) (role : ColorRole),
      entries.Perm (replacedTexts texts) →
        ((Palette.ofTexts entries).value.setAll given).resolve role =
          (Palette.lastColor? given role).getD
            (((texts role).bind Color.parse?).getD role.defaultColor)) ∧
    (∀ entries : List (ColorRole × String),
      let events := (Palette.ofTexts entries).events
      events = (entries.filter fun entry => !Palette.isReadable entry).map
          (fun entry => .invalidColor entry.2 entry.1) ∧
        ∀ event ∈ events, event.level = .warn) ∧
    (∀ (entries : List (ColorRole × String)) (kept : ColorRole × String → Bool),
      (∀ entry ∈ entries, kept entry = false →
          Palette.isReadable entry = false) →
        (Palette.ofTexts (entries.filter kept)).value =
          (Palette.ofTexts entries).value) ∧
    (∀ (row : Row) (palette other : Palette),
      row.lines other = row.lines palette ↔ row.LooksAlike palette other) := by
  refine ⟨?_, ?_, ?_, Row.lines_eq_iff⟩
  · intro texts entries given role order
    rw [Palette.resolve_setAll, Palette.resolve_ofTexts order]
  · intro entries events
    have written : events = (entries.filter fun entry =>
        !Palette.isReadable entry).map fun entry =>
          .invalidColor entry.2 entry.1 :=
      Palette.events_ofTexts_go {} entries
    refine ⟨written, ?_⟩
    rw [written, List.forall_mem_map]
    exact fun _ _ => rfl
  · intro entries kept unreadable
    exact Palette.value_ofTexts_filter unreadable

/-- A text that is no color leaves its role as it was, and may be left out.  A role
that is given two colors later has the second one. -/
theorem palettes_resolve_by_role_around_unreadable :
    let texts : ColorRole → Option String :=
      replaceText (replaceText (fun _ => none) .yellow "red") .orange "reddish"
    let entries : List (ColorRole × String) :=
      [(.orange, "reddish"), (.yellow, "red")]
    let given : List (ColorRole × Color) :=
      [(.danger, .blue), (.text, .green), (.danger, .white)]
    let palette := (Palette.ofTexts entries).value.setAll given
    entries.Perm (replacedTexts texts) ∧
      palette.resolve .danger = .white ∧
      palette.resolve .yellow = .red ∧
      palette.resolve .orange = ColorRole.defaultColor .orange ∧
      Palette.isReadable (.orange, "reddish") = false ∧
      (Palette.ofTexts [(.yellow, "red")]).value =
        (Palette.ofTexts entries).value := by
  intro texts entries given palette
  obtain ⟨resolved, -, filtered, -⟩ := palettes_resolve_by_role
  have order : entries.Perm (replacedTexts texts) := by decide
  have unreadable : Palette.isReadable (.orange, "reddish") = false := by
    decide +kernel
  refine ⟨order, resolved texts entries given .danger order, ?_, ?_, unreadable, ?_⟩
  · exact (resolved texts entries given .yellow order).trans (by decide +kernel)
  · exact (resolved texts entries given .orange order).trans (by decide +kernel)
  · refine filtered entries (fun entry => entry.1 = .yellow) ?_
    rw [List.forall_mem_cons, List.forall_mem_singleton]
    exact ⟨fun _ => unreadable, fun left => absurd left (by decide)⟩

end WalletRows
