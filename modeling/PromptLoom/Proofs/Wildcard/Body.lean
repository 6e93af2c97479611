import PromptLoom.Wildcard.Modifier

/-! # Well-formed bodies

A body is a keyword and a modifier, and a count that is read from a modifier asks
for a number of 64 bits or for a range of such numbers that is not empty.
-/

namespace PromptLoom

namespace Count

/-- The numbers of the count have 64 bits, and a range holds one of them. -/
def Bounded : Count → Prop
  | exact n => n < UInt64.size
  | range low high => low < high ∧ high < UInt64.size

theorem readBound_lt {written : Text} {n : Nat} (h : readBound written = .ok n) :
    n < UInt64.size := by
  simp only [readBound] at h
  split at h
  · simp at h
  · split at h
    · rename_i m found
      cases h
      simp only [Decimal.readWord?, Option.filter_eq_some_iff, decide_eq_true_eq] at found
      exact found.2
    · simp at h

theorem bounded_of_read {written : Text} {count : Count} (h : read written = .ok count) :
    count.Bounded := by
  unfold read at h
  cases cutting : Text.cut '-' written with
  | none =>
      simp only [cutting] at h
      cases bound : readBound written with
      | error cause => simp [bound, Except.map] at h
      | ok n =>
          simp only [bound, Except.map, Except.ok.injEq] at h
          exact h ▸ readBound_lt bound
  | some parts =>
      simp only [cutting, bind, Except.bind] at h
      cases first : readBound parts.1 with
      | error cause => simp [first] at h
      | ok low =>
          cases second : readBound (parts.2.takeWhile (· ≠ '-')) with
          | error cause => simp_all
          | ok high =>
              simp only [first, second] at h
              split at h
              · rename_i order
                cases h
                exact ⟨order, readBound_lt second⟩
              · simp at h

end Count

namespace Wildcard

theorem mem_of_mem_keywordOf {body : Text} {c : Char} (member : c ∈ keywordOf body) : c ∈ body := by
  unfold keywordOf at member
  split at member
  · exact member
  · rename_i keyword modifier cutting
    rw [Text.eq_append_of_cut cutting]
    exact List.mem_append_left _ member

theorem parse_cut {body keyword modifier : Text} {wildcard : Wildcard}
    (cutting : Text.cut '|' body = some (keyword, modifier))
    (parsed : parse body = .ok wildcard) :
    ∃ written count, Count.read written = .ok count ∧
      cutRepeats modifier = .ok (written, wildcard.repeats) ∧
      wildcard.keyword = keyword ∧ wildcard.count = some count := by
  simp only [parse, cutting, bind, Except.bind] at parsed
  cases marks : cutRepeats modifier with
  | error cause => simp [marks] at parsed
  | ok parts =>
      cases counted : Count.read parts.1 with
      | error cause => simp [marks, counted] at parsed
      | ok count =>
          simp only [marks, counted, pure, Except.pure, Except.ok.injEq] at parsed
          subst parsed
          exact ⟨parts.1, count, counted, rfl, rfl, rfl⟩

theorem keyword_of_parse {body : Text} {wildcard : Wildcard} (parsed : parse body = .ok wildcard) :
    wildcard.keyword = keywordOf body := by
  cases cutting : Text.cut '|' body with
  | none =>
      simp only [parse, cutting, Except.ok.injEq] at parsed
      simp [← parsed, keywordOf, cutting]
  | some parts =>
      obtain ⟨_, _, _, _, same, _⟩ := parse_cut cutting parsed
      simp [same, keywordOf, cutting]

theorem mem_of_mem_keyword {body : Text} {wildcard : Wildcard} (parsed : parse body = .ok wildcard)
    {c : Char} (member : c ∈ wildcard.keyword) : c ∈ body := by
  rw [keyword_of_parse parsed] at member
  exact mem_of_mem_keywordOf member

theorem count_bounded {body : Text} {wildcard : Wildcard} {count : Count}
    (parsed : parse body = .ok wildcard) (counted : wildcard.count = some count) :
    count.Bounded := by
  cases cutting : Text.cut '|' body with
  | none =>
      simp only [parse, cutting, Except.ok.injEq] at parsed
      simp [← parsed] at counted
  | some parts =>
      obtain ⟨written, found, bounds, _, _, same⟩ := parse_cut cutting parsed
      rw [counted, Option.some.injEq] at same
      exact same ▸ Count.bounded_of_read bounds

end Wildcard

end PromptLoom
