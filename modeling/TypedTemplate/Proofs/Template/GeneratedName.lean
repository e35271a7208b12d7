import Mathlib.Order.Bounds.Basic
import TypedTemplate.Proofs.Template.Declaration
/-!
# Generated names

A placeholder that leaves its name out is given a generated one, with the least number that is free. The
search for it starts behind the last number that was given out, so two things have to be known of it: it
comes to an end, because there are more numbers than registered names, and it misses nothing, because every
number before its start is taken. The second is an invariant of the session, `Packed`. It holds although the
names that are passed over may belong to authors and to variables of any kind.
-/

namespace TypedTemplate

namespace Session

/-- The search for a free number of a kind passes over the numbers whose names are registered. -/
inductive Searches (s : Session) (kind : Kind) : Nat → Nat → Prop
  | free {number : Nat} (hfree : s.lookup (generatedName kind number) = none) :
      Searches s kind number number
  | taken {number found : Nat} (htaken : s.lookup (generatedName kind number) ≠ none)
      (hrest : Searches s kind (number + 1) found) : Searches s kind number found

def vacancies (s : Session) (kind : Kind) : Set Nat :=
  {number | 0 < number ∧ s.lookup (generatedName kind number) = none}

/-- Every number up to the last one given out for a kind is taken. -/
def Packed (s : Session) : Prop :=
  ∀ kind number, 0 < number → number ≤ s.generated.get kind →
    s.lookup (generatedName kind number) ≠ none

/-- What a session does about names that are left out. -/
structure GeneratesNames (s : Session) : Prop where
  packed : s.Packed
  /-- A number is taken by a variable of any kind, whoever chose its name. -/
  mem_vacancies_iff : ∀ kind number, number ∈ s.vacancies kind
    ↔ 0 < number ∧ ∀ v ∈ s.declared, v.name ≠ generatedName kind number
  search_ends : ∀ kind, ∃ number, s.Searches kind (s.generated.get kind + 1) number
    ∧ IsLeast (s.vacancies kind) number ∧ number ≤ s.declared.length + 1
  declared : ∀ body span v s', s.place body span = (.declared v, s') →
    (v.isGenerated = true ↔ namePart body = [])
      ∧ (namePart body = [] → ∃ number, IsLeast (s.vacancies v.kind) number
          ∧ v.name = generatedName v.kind number)
  /-- Behind a blank name any format declares a variable. -/
  blank : ∀ raw format kind p span, ':' ∉ raw → raw.trim = [] → FormatPart s.decimal kind format p →
    ∃ number s', IsLeast (s.vacancies kind) number
      ∧ s.place (raw ++ ':' :: format) span
        = (.declared ⟨kind, generatedName kind number, true, p, none⟩, s')

variable {s : Session} {kind : Kind}

/-! ### The search -/

theorem searches_freeNumber {fuel number : Nat}
    (hfree : s.lookup (generatedName kind (s.freeNumber kind fuel number)) = none) :
    s.Searches kind number (s.freeNumber kind fuel number) := by
  induction fuel generalizing number with
  | zero => exact .free hfree
  | succ fuel ih =>
      rw [freeNumber] at hfree ⊢
      by_cases htaken : (s.lookup (generatedName kind number)).isSome
      · rw [if_pos htaken] at hfree ⊢
        exact .taken (Option.ne_none_iff_isSome.mpr htaken) (ih hfree)
      · rw [if_neg htaken] at hfree ⊢
        exact .free hfree

theorem searches_nextNumber (s : Session) (kind : Kind) :
    s.Searches kind (s.generated.get kind + 1) (s.nextNumber kind) :=
  searches_freeNumber (s.lookup_nextNumber kind)

theorem Searches.isLeast {number found : Nat} (h : s.Searches kind number found) :
    IsLeast {m | number ≤ m ∧ s.lookup (generatedName kind m) = none} found := by
  induction h with
  | free hfree => exact ⟨⟨Nat.le_refl _, hfree⟩, fun m hm => hm.1⟩
  | @taken number found htaken hrest ih =>
      obtain ⟨⟨hle, hfree⟩, hleast⟩ := ih
      refine ⟨⟨Nat.le_of_succ_le hle, hfree⟩, ?_⟩
      rintro m ⟨hm, hmfree⟩
      apply hleast
      have hne : m ≠ number := by
        rintro rfl
        exact htaken hmfree
      exact ⟨by omega, hmfree⟩

/-- Where nothing before the start is free, it is the first free number of all. -/
theorem Packed.isLeast_nextNumber (h : s.Packed) (kind : Kind) :
    IsLeast (s.vacancies kind) (s.nextNumber kind) := by
  obtain ⟨⟨hle, hfree⟩, hleast⟩ := (s.searches_nextNumber kind).isLeast
  refine ⟨⟨by omega, hfree⟩, ?_⟩
  rintro m ⟨hpos, hm⟩
  apply hleast
  have hbehind : ¬m ≤ s.generated.get kind := fun hle => h kind m hpos hle hm
  exact ⟨by omega, hm⟩

/-! ### Every number given out is taken -/

theorem lookup_register_ne_none {v : Variable} {x : Text} (h : s.lookup x ≠ none) :
    (s.register v).lookup x ≠ none := by
  rw [lookup_register]
  split
  · simp
  · exact h

theorem Packed.of_records (h : s.Packed) {body : Text} {v : Variable} {s' : Session}
    (hrecords : s.Records body v s') : s'.Packed := by
  cases hrecords with
  | given => exact fun kind number hpos hle => lookup_register_ne_none (h kind number hpos hle)
  | generated _ hname _ =>
      intro kind number hpos hle
      show Session.lookup (register _ v) (generatedName kind number) ≠ none
      replace hle : number ≤ (s.generated.set v.kind (s.nextNumber v.kind)).get kind := hle
      by_cases hkind : kind = v.kind
      · subst hkind
        rw [PerKind.get_set_self] at hle
        rcases Nat.lt_or_eq_of_le hle with hlt | rfl
        · -- A free number below the new one would have been found first.
          apply lookup_register_ne_none
          intro hfree
          have hleast := (h.isLeast_nextNumber v.kind).2 ⟨hpos, hfree⟩
          omega
        · rw [lookup_register, if_pos hname.symm]
          simp
      · rw [PerKind.get_set_of_ne _ _ hkind] at hle
        apply lookup_register_ne_none
        exact h kind number hpos hle

theorem Packed.placeSegment (h : s.Packed) (hs : s.Sound) (segment : Segment) :
    (s.placeSegment segment).2.Packed := by
  cases segment with
  | text t => exact h
  | placeholder body span =>
      rw [Session.placeSegment]
      obtain ⟨code, hplace⟩ | ⟨r, hplace, _⟩ | ⟨v, s', hplace, _⟩ := s.place_cases body span
      · rwa [hplace]
      · rwa [hplace]
      · rw [hplace]
        exact h.of_records (records_of_place hs hplace)

theorem packed_opened (decimal : Char) : Packed { decimal } := by
  intro kind number hpos hle
  have hzero : (Tally.zero.get kind : Nat) = 0 := Tally.get_zero kind
  replace hle : number ≤ Tally.zero.get kind := hle
  omega

/-! ### What a session gives out -/

theorem Sound.le_of_isLeast (hs : s.Sound) {number : Nat} (h : IsLeast (s.vacancies kind) number) :
    number ≤ s.declared.length + 1 := by
  obtain ⟨i, hi, hfree⟩ := s.exists_lookup_eq_none kind 1
  have hlength : s.registry.length = s.declared.length := by simp [hs.registry_eq]
  have hle : number ≤ 1 + i := h.2 ⟨by omega, hfree⟩
  omega

theorem Packed.generatesNames (h : s.Packed) (hs : s.Sound) : s.GeneratesNames where
  packed := h
  mem_vacancies_iff kind number := by
    rw [← hs.lookup_eq_none_iff]
    rfl
  search_ends kind :=
    ⟨s.nextNumber kind, s.searches_nextNumber kind, h.isLeast_nextNumber kind,
      hs.le_of_isLeast (h.isLeast_nextNumber kind)⟩
  declared body span v s' hplace := by
    cases records_of_place hs hplace with
    | given hgiven _ _ hauthor => exact ⟨by simp [hauthor, hgiven], fun hblank => absurd hblank hgiven⟩
    | generated hblank hname hgenerated =>
        exact ⟨by simp [hgenerated, hblank], fun _ => ⟨_, h.isLeast_nextNumber v.kind, hname⟩⟩
  blank raw format kind p span hraw hblank hformat := by
    have hfree : ∀ v ∈ s.declared, v.name ≠ raw.trim := by
      rw [hblank]
      exact hs.named
    have hread := read_of_bodyForm hs (.declaration rfl ⟨hraw, .inl hblank⟩ hfree hformat)
    rw [if_pos hblank] at hread
    have hplace : s.place (raw ++ ':' :: format) span
        = (.declared (s.declare kind none p).1, (s.declare kind none p).2) := by
      rw [place, hread]
    exact ⟨s.nextNumber kind, _, h.isLeast_nextNumber kind, hplace⟩

end Session

namespace Transcript

/-- Whatever was asked of a session before, a name that is left out is given the least free number. -/
theorem generatesNames_answerAll (decimal : Char) (requests : List Session.Request) :
    ((opened decimal).answerAll requests).session.GeneratesNames := by
  have hkept : ((opened decimal).answerAll requests).session.Sound
      ∧ ((opened decimal).answerAll requests).session.Packed := by
    apply answerAll_induction (p := fun t => t.session.Sound ∧ t.session.Packed)
    · intro t segment ⟨hs, hpacked⟩
      exact ⟨(Session.placeSegment_spec hs segment).1, hpacked.placeSegment hs segment⟩
    · exact fun _ t _ => ⟨Session.sound_opened _, Session.packed_opened _⟩
    · exact ⟨Session.sound_opened decimal, Session.packed_opened decimal⟩
  exact hkept.2.generatesNames hkept.1

/-- Numbers that authors have taken, for variables of other kinds as well, are passed over, and a restart
frees them. -/
example :
    let t := (opened ',').answerAll [.template "{Integer 1:S}{:I}{Integer 3:B}{Text 2:I}".toList,
      .template "{ :I}{:S}{:s}{Integer 5:Q}{:i}".toList]
    t.tokens.filterMap Token.name? = ["Integer 1", "Integer 2", "Integer 3", "Text 2", "Integer 4", "Text 1",
        "Text 3", "Integer 5"].map String.toList
      ∧ ((t.answerAll [.restart, .placeholder ":I".toList ⟨0, 4⟩]).tokens.filterMap Token.name?)
        = ["Integer 1".toList] := by
  decide +kernel

end Transcript

end TypedTemplate
