import Mathlib.Algebra.Order.Ring.Int
import Mathlib.Tactic.Linarith
import WalletRows.Duration
import WalletRows.Proofs.Text.Numerals

/-!
# How long ago

A past time is shown by a whole number of the greatest unit that fits in the
time since then.  The units do not divide one another: a month is no number of
weeks and a year no number of months.  But a unit that fits is never longer than
the time since then, so whatever the unit, an older time is not shown as more
recent; and as the next unit would have fitted, no count outgrows its unit.
-/

namespace WalletRows

/-- The first of the units that fit is the greatest one, if the greater units
come first. -/
theorem greatest_of_find? {Unit : Type} {length : Unit → Int}
    {units : List Unit} {span : Int} {unit : Unit}
    (descending : units.Pairwise fun first second => length second ≤ length first)
    (found : units.find? (fun unit => length unit ≤ span) = some unit) :
    ∀ other ∈ units, length other ≤ span → length other ≤ length unit := by
  induction descending with
  | nil => cases found
  | @cons first rest greater _ ih =>
      intro other member fits
      by_cases first_fits : length first ≤ span
      · rw [List.find?_cons_of_pos (by simpa using first_fits)] at found
        obtain rfl := Option.some.inj found
        rcases List.mem_cons.mp member with rfl | later
        · exact Int.le_refl _
        · exact greater other later
      · rw [List.find?_cons_of_neg (by simpa using first_fits)] at found
        rcases List.mem_cons.mp member with rfl | later
        · exact absurd fits first_fits
        · exact ih found other later fits

namespace Ago

/-! ## Ages -/

/-- The seconds in a minute, an hour, a day, a week, 30 and 365 days. -/
def unitLengths : List Int :=
  [60, 3600, 86400, 604800, 2592000, 31536000]

/-- The greatest counts of the units but for the last one. -/
def mostCounts : List (Int × Nat) :=
  [(60, 59), (3600, 23), (86400, 6), (604800, 4), (2592000, 12)]

/-- A span of time is a count of its greatest unit, and less than one more. -/
structure IsAge (span : Int) (count : Nat) (length : Int) : Prop where
  unit : length ∈ unitLengths
  fits : length ≤ span
  greatest : ∀ other ∈ unitLengths, other ≤ span → other ≤ length
  positive : 1 ≤ count
  low : count * length ≤ span
  high : span < (count + 1) * length

variable {span later : Int} {count number : Nat} {length unit : Int}

theorem minute_le_of_mem : ∀ length ∈ unitLengths, 60 ≤ length := by decide

theorem IsAge.length_pos (age : IsAge span count length) : 0 < length := by
  have := minute_le_of_mem length age.unit
  omega

theorem IsAge.long (age : IsAge span count length) : 60 ≤ span :=
  (minute_le_of_mem length age.unit).trans age.fits

theorem IsAge.le_most (age : IsAge span count length) :
    ∀ most, (length, most) ∈ mostCounts → count ≤ most := by
  intro most member
  have low := age.low
  have next {other : Int} (among : other ∈ unitLengths) (longer : length < other) :
      span < other := by
    by_contra fits
    have := age.greatest other among (not_lt.mp fits)
    omega
  simp only [mostCounts, List.mem_cons, Prod.mk.injEq, List.not_mem_nil, or_false]
    at member
  rcases member with ⟨rfl, rfl⟩ | ⟨rfl, rfl⟩ | ⟨rfl, rfl⟩ | ⟨rfl, rfl⟩ | ⟨rfl, rfl⟩
  · have := @next 3600 (by decide) (by decide)
    omega
  · have := @next 86400 (by decide) (by decide)
    omega
  · have := @next 604800 (by decide) (by decide)
    omega
  · have := @next 2592000 (by decide) (by decide)
    omega
  · have := @next 31536000 (by decide) (by decide)
    omega

theorem IsAge.mono (age : IsAge span count length)
    (older : IsAge later number unit) (le : span ≤ later) :
    count * length ≤ number * unit := by
  by_cases fits : unit ≤ span
  · have same : unit = length := Int.le_antisymm
      (age.greatest unit older.unit fits)
      (older.greatest length age.unit (age.fits.trans le))
    subst same
    have less : (count : Int) * unit < (number + 1) * unit :=
      age.low.trans_lt (le.trans_lt older.high)
    have counts : (count : Int) < number + 1 :=
      lt_of_mul_lt_mul_right less age.length_pos.le
    exact Int.mul_le_mul_of_nonneg_right (by omega) age.length_pos.le
  · -- The unit of the longer span alone is more than the whole shorter one.
    have one : (1 : Int) ≤ number := by exact_mod_cast older.positive
    calc (count : Int) * length ≤ span := age.low
      _ ≤ unit := (not_le.mp fits).le
      _ ≤ number * unit := le_mul_of_one_le_left older.length_pos.le one

/-! ## Texts -/

/-- The length of the unit that a word names. -/
def length? : String → Option Int
  | "minute" => some 60
  | "hour" => some 3600
  | "day" => some 86400
  | "week" => some 604800
  | "month" => some 2592000
  | "year" => some 31536000
  | _ => none

/-- A text tells a count of a unit, in the plural unless it is one. -/
def TellsCount (text : String) (count : Nat) (length : Int) : Prop :=
  ∃ word, length? word = some length ∧
    text.toList = Decimal.digits count ++ ' ' ::
      (word.toList ++ ((if count = 1 then [] else ['s']) ++ " ago".toList))

theorem TellsCount.unique {text : String} (tells : TellsCount text count length)
    (tells' : TellsCount text number unit) : count = number ∧ length = unit := by
  obtain ⟨word, named, written⟩ := tells
  obtain ⟨word', named', written'⟩ := tells'
  obtain ⟨digits, behind⟩ := append_inj_of_ends
    (fun _ => Decimal.isDigit_of_mem_digits)
    (fun _ => Decimal.isDigit_of_mem_digits) rfl rfl (written.symm.trans written')
  obtain rfl := Decimal.digits_inj digits
  have words := List.append_cancel_right (List.cons.inj behind).2
  rw [String.toList_inj.mp words, named'] at named
  exact ⟨rfl, (Option.some.inj named).symm⟩

theorem not_tellsCount_of_letter {text : String} {first : Char} {rest : List Char}
    (written : text.toList = first :: rest) (letter : first.isDigit = false) :
    ¬ TellsCount text count length := by
  rintro ⟨word, -, text⟩
  rw [written] at text
  exact Decimal.digits_append_ne_cons letter _ _ _ text.symm

theorem tellsCount_countText {count : Int} (positive : 1 ≤ count) {word : String}
    (named : length? word = some length) :
    TellsCount (countText count word) count.toNat length := by
  refine ⟨word, named, ?_⟩
  by_cases one : count = 1
  · subst one
    have digits : Decimal.digits 1 = ['1'] := Decimal.digits_of_lt (by decide)
    simp [countText, digits]
  · have plural : count.toNat ≠ 1 := by omega
    have number := Decimal.signed_of_nonneg (show 0 ≤ count by omega)
    simp [countText, one, plural, integerText, number]

/-! ## The age of a time -/

/-- The seconds from a time to the present, cut to 64 bits. -/
def elapsed (timestamp now : Int) : Int :=
  min (now - timestamp) (2 ^ 63 - 1)

theorem timeAgo_eq (timestamp now : Int) :
    timeAgo timestamp now =
      if elapsed timestamp now < 0 then "in the future"
      else
        match agoUnits.find? fun ago => ago.seconds ≤ elapsed timestamp now with
        | some ago =>
            countText (elapsed timestamp now / ago.seconds) ago.name
        | none => "just now" :=
  rfl

theorem mem_unitLengths_iff {length : Int} :
    length ∈ unitLengths ↔ ∃ ago ∈ agoUnits, ago.seconds = length := by
  have same : agoUnits.map AgoUnit.seconds = unitLengths.reverse := by decide
  rw [← List.mem_reverse, ← same, List.mem_map]

theorem length?_name {ago : AgoUnit} (member : ago ∈ agoUnits) :
    length? ago.name = some ago.seconds := by
  simp only [agoUnits, List.mem_cons, List.not_mem_nil, or_false] at member
  rcases member with rfl | rfl | rfl | rfl | rfl | rfl
  all_goals decide

theorem find?_eq_none_iff {span : Int} :
    agoUnits.find? (fun ago => ago.seconds ≤ span) = none ↔ span < 60 := by
  have lengths : (∀ ago ∈ agoUnits, ¬ ago.seconds ≤ span) ↔
      ∀ length ∈ unitLengths, ¬ length ≤ span := by
    simp only [mem_unitLengths_iff, forall_exists_index, and_imp,
      forall_apply_eq_imp_iff₂]
  simp only [List.find?_eq_none, decide_eq_true_eq, lengths, unitLengths,
    List.forall_mem_cons, List.not_mem_nil, false_imp_iff, implies_true, and_true]
  omega

theorem isAge_of_find? {span : Int} {ago : AgoUnit}
    (found : agoUnits.find? (fun ago => ago.seconds ≤ span) = some ago) :
    IsAge span (span / ago.seconds).toNat ago.seconds := by
  have member := List.mem_of_find?_eq_some found
  have fits : ago.seconds ≤ span := by simpa using List.find?_some found
  have unit : ago.seconds ∈ unitLengths :=
    mem_unitLengths_iff.mpr ⟨ago, member, rfl⟩
  have positive : 0 < ago.seconds := by
    have := minute_le_of_mem ago.seconds unit
    omega
  have one : 1 ≤ span / ago.seconds :=
    (Int.le_ediv_iff_mul_le positive).mpr (by omega)
  have count : ((span / ago.seconds).toNat : Int) = span / ago.seconds := by omega
  have descending : agoUnits.Pairwise
      fun first second => second.seconds ≤ first.seconds := by decide
  refine ⟨unit, fits, ?_, by omega, ?_, ?_⟩
  · intro other among below
    obtain ⟨other, member, rfl⟩ := mem_unitLengths_iff.mp among
    exact greatest_of_find? descending found other member below
  · rw [count]
    exact Int.ediv_mul_le _ positive.ne'
  · rw [count]
    exact Int.lt_ediv_add_one_mul_self _ positive

/-- What is shown of a time to come, of the last minute and of any older time. -/
inductive Shown (timestamp now : Int) : Prop
  | future (ahead : now < timestamp)
      (shown : timeAgo timestamp now = "in the future")
  | moment (past : timestamp ≤ now) (short : elapsed timestamp now < 60)
      (shown : timeAgo timestamp now = "just now")
  | age (past : timestamp ≤ now) (count : Nat) (length : Int)
      (age : IsAge (elapsed timestamp now) count length)
      (counted : TellsCount (timeAgo timestamp now) count length)

theorem timeAgo_shown (timestamp now : Int) : Shown timestamp now := by
  have shown := timeAgo_eq timestamp now
  by_cases future : elapsed timestamp now < 0
  · rw [if_pos future] at shown
    refine .future ?_ shown
    unfold elapsed at future
    omega
  · have past : timestamp ≤ now := by
      unfold elapsed at future
      omega
    rw [if_neg future] at shown
    split at shown
    · next ago found =>
      have age := isAge_of_find? found
      have one : 1 ≤ elapsed timestamp now / ago.seconds := by
        have := age.positive
        omega
      have named := length?_name (List.mem_of_find?_eq_some found)
      exact .age past _ _ age (shown ▸ tellsCount_countText one named)
    · next none => exact .moment past (find?_eq_none_iff.mp none) shown

/-- A text tells for how many seconds at least a time has been past. -/
def Tells (text : String) (seconds : Int) : Prop :=
  text = "just now" ∧ seconds = 0 ∨
    ∃ count length, TellsCount text count length ∧ seconds = count * length

theorem not_tellsCount_now : ¬ TellsCount "just now" count length :=
  not_tellsCount_of_letter rfl rfl

theorem not_tellsCount_future : ¬ TellsCount "in the future" count length :=
  not_tellsCount_of_letter rfl rfl

theorem Tells.unique {text : String} {seconds others : Int}
    (tells : Tells text seconds) (tells' : Tells text others) :
    seconds = others := by
  rcases tells with ⟨rfl, rfl⟩ | ⟨count, length, counted, rfl⟩
  · rcases tells' with ⟨-, rfl⟩ | ⟨_, _, counted, -⟩
    · rfl
    · exact absurd counted not_tellsCount_now
  · rcases tells' with ⟨rfl, -⟩ | ⟨_, _, counted', rfl⟩
    · exact absurd counted not_tellsCount_now
    · obtain ⟨rfl, rfl⟩ := counted.unique counted'
      rfl

theorem exists_tells {timestamp now : Int} (past : timestamp ≤ now) :
    ∃ seconds, Tells (timeAgo timestamp now) seconds := by
  cases timeAgo_shown timestamp now with
  | future ahead _ => exact absurd past (not_le.mpr ahead)
  | moment _ _ shown => exact ⟨0, .inl ⟨shown, rfl⟩⟩
  | age _ count length _ counted => exact ⟨_, .inr ⟨count, length, counted, rfl⟩⟩

theorem Tells.mono {older timestamp now seconds more : Int}
    (older_le : older ≤ timestamp) (past : timestamp ≤ now)
    (tells : Tells (timeAgo timestamp now) seconds)
    (tells' : Tells (timeAgo older now) more) : seconds ≤ more := by
  have spans : elapsed timestamp now ≤ elapsed older now := by
    unfold elapsed
    omega
  cases timeAgo_shown older now with
  | future ahead _ => omega
  | moment _ short shown =>
      obtain rfl := tells'.unique (.inl ⟨shown, rfl⟩)
      cases timeAgo_shown timestamp now with
      | future ahead _ => omega
      | moment _ _ shown => exact (tells.unique (.inl ⟨shown, rfl⟩)).le
      | age _ count length age _ =>
          -- A unit that fits in the shorter span fits in the longer one.
          have := age.long
          omega
  | age _ number unit age counted =>
      obtain rfl := tells'.unique (.inr ⟨number, unit, counted, rfl⟩)
      cases timeAgo_shown timestamp now with
      | future ahead _ => omega
      | moment _ _ shown =>
          obtain rfl := tells.unique (.inl ⟨shown, rfl⟩)
          exact Int.mul_nonneg (Int.natCast_nonneg _) age.length_pos.le
      | age _ count length age' counted' =>
          obtain rfl := tells.unique (.inr ⟨count, length, counted', rfl⟩)
          exact age'.mono age spans

/-- A time is shown as yet to come exactly if it is, and as just now if it is less
than a minute past; of any other past time, the text tells a count of the greatest
unit that fits in the time since then, which is cut to 64 bits.  That count stands
for at most that time and for less than a unit less, and stays below the next unit.
An older time is never told as more recent. -/
theorem timeAgo_tells_age (timestamp now : Int) :
    (timeAgo timestamp now = "in the future" ↔ now < timestamp) ∧
    (timeAgo timestamp now = "just now" ↔
      timestamp ≤ now ∧ elapsed timestamp now < 60) ∧
    (60 ≤ elapsed timestamp now → ∃ count length,
      TellsCount (timeAgo timestamp now) count length ∧
        IsAge (elapsed timestamp now) count length ∧
        ∀ most, (length, most) ∈ mostCounts → count ≤ most) ∧
    (timestamp ≤ now → ∃! seconds, Tells (timeAgo timestamp now) seconds) ∧
    ∀ older seconds more, older ≤ timestamp → timestamp ≤ now →
      Tells (timeAgo timestamp now) seconds → Tells (timeAgo older now) more →
        seconds ≤ more := by
  refine ⟨?_, ?_, ?_, ?_, ?_⟩
  · cases timeAgo_shown timestamp now with
    | future ahead shown => exact iff_of_true shown ahead
    | moment past _ shown =>
        rw [shown]
        exact iff_of_false (by decide) (not_lt.mpr past)
    | age past count length _ counted =>
        refine iff_of_false ?_ (not_lt.mpr past)
        intro shown
        exact not_tellsCount_future (shown ▸ counted)
  · cases timeAgo_shown timestamp now with
    | future ahead shown =>
        rw [shown]
        exact iff_of_false (by decide) fun past => not_lt.mpr past.1 ahead
    | moment past short shown => exact iff_of_true shown ⟨past, short⟩
    | age past count length age counted =>
        refine iff_of_false ?_ ?_
        · intro shown
          exact not_tellsCount_now (shown ▸ counted)
        · intro short
          exact not_lt.mpr age.long short.2
  · intro long
    cases timeAgo_shown timestamp now with
    | future ahead _ =>
        unfold elapsed at long
        omega
    | moment _ short _ => omega
    | age _ count length age counted =>
        exact ⟨count, length, counted, age, age.le_most⟩
  · intro past
    obtain ⟨seconds, tells⟩ := exists_tells past
    exact ⟨seconds, tells, fun _ tells' => tells'.unique tells⟩
  · exact fun older seconds more => Tells.mono

/-- At the end of the calendar: the greatest and the least timestamp of 64 bits,
from which the time is cut, and the last second before a month is full. -/
theorem timeAgo_tells_age_at_end_of_calendar :
    let now : Int := 8210266876799
    let least : Int := Int64.minValue.toInt
    timeAgo Int64.maxValue.toInt now = "in the future" ∧
      timeAgo (now - 2591999) now = "4 weeks ago" ∧
      (∃ count length, TellsCount (timeAgo least now) count length ∧
        IsAge (2 ^ 63 - 1) count length) ∧
      ∃ seconds more, Tells (timeAgo (now - 2591999) now) seconds ∧
        Tells (timeAgo least now) more ∧ seconds ≤ more := by
  intro now least
  obtain ⟨future, -⟩ := timeAgo_tells_age Int64.maxValue.toInt now
  obtain ⟨-, -, cut, oldest, -⟩ := timeAgo_tells_age least now
  obtain ⟨-, -, -, recent, ordered⟩ := timeAgo_tells_age (now - 2591999) now
  obtain ⟨more, tells', -⟩ := oldest (by decide)
  obtain ⟨seconds, tells, -⟩ := recent (by decide)
  obtain ⟨count, length, counted, age, -⟩ := cut (by decide)
  refine ⟨future.mpr (by decide), by decide +kernel,
    ⟨count, length, counted, age⟩, seconds, more, tells, tells', ?_⟩
  exact ordered least seconds more (by decide) (by decide) tells tells'

end Ago

end WalletRows
