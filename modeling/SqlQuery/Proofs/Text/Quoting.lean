import SqlQuery.Dialect.Basic

/-! # Quoted forms

Every text that counts as quoted is written by quoting some body. So an identifier is quoted in any
case, whether it was given in that form or not.
-/

namespace SqlQuery

namespace Text

theorem exists_doubled_of_marksPaired {mark : Char} {cs : List Char}
    (paired : marksPaired mark cs = true) : ∃ body, cs = doubled mark body := by
  fun_induction marksPaired mark cs with
  | case1 => exact ⟨[], rfl⟩
  | case2 c =>
    have different : c ≠ mark := by simpa using paired
    exact ⟨[c], by simp [doubled, different]⟩
  | case3 d rest ih =>
    obtain ⟨same, tail⟩ := Bool.and_eq_true_iff.mp paired
    obtain ⟨body, rfl⟩ := ih tail
    exact ⟨mark :: body, by simpa [doubled] using same⟩
  | case4 c d rest different ih =>
    obtain ⟨body, equal⟩ := ih paired
    exact ⟨c :: body, by simp [doubled, different, equal]⟩

theorem exists_quoteCharacters_of_isQuoted {opening closing : Char} {cs : List Char}
    (quoted : isQuotedCharacters opening closing cs = true) :
    ∃ body, cs = quoteCharacters opening closing body := by
  cases cs with
  | nil => simp [isQuotedCharacters] at quoted
  | cons first rest =>
    simp only [isQuotedCharacters, Bool.and_eq_true, decide_eq_true_eq] at quoted
    obtain ⟨⟨rfl, last⟩, paired⟩ := quoted
    obtain ⟨body, equal⟩ := exists_doubled_of_marksPaired paired
    obtain ⟨before, rfl⟩ := List.getLast?_eq_some_iff.mp last
    refine ⟨body, ?_⟩
    rw [quoteCharacters, ← equal, List.dropLast_concat]

end Text

theorem Dialect.exists_quote_eq (dialect : Dialect) (identifier : String) :
    ∃ body, (dialect.quote identifier).toList =
      Text.quoteCharacters dialect.openQuote dialect.closeQuote body := by
  rw [quote]
  split
  · rename_i quoted
    exact Text.exists_quoteCharacters_of_isQuoted quoted
  · exact ⟨identifier.toList, String.toList_ofList⟩

end SqlQuery
