import SqlQuery.Proofs.Bindings.Automatic
import SqlQuery.Proofs.Query.Core

/-! # Windows of rows

A window with a limit is written behind the select and its order; its two numbers can be read back
from there in each of the three spellings. A window without a limit is not written at all, its offset
included.
-/

namespace SqlQuery

/-! ## Numbers in texts -/

namespace Text

/-- A text that continues no number. -/
def EndsNumber (text : String) : Prop :=
  ∀ c ∈ text.toList.head?, c.isDigit = false

theorem takeWhile_toString_append (n : Nat) {text : String} (ends : EndsNumber text) :
    (toString n ++ text).toList.takeWhile Char.isDigit = (toString n).toList := by
  have digits : ∀ c ∈ (toString n).toList, c.isDigit = true := by
    rw [Nat.toString_eq_ofList_toDigits, String.toList_ofList]
    exact fun c member => Nat.isDigit_of_mem_toDigits (by decide) (by decide) member
  have stops : text.toList.takeWhile Char.isDigit = [] := by
    rw [EndsNumber] at ends
    cases cs : text.toList with
    | nil => rfl
    | cons c rest => simp [ends c (by simp [cs])]
  rw [String.toList_append, List.takeWhile_append_of_pos digits, stops, List.append_nil]

theorem toString_injective {m n : Nat} (same : toString m = toString n) : m = n :=
  Bindings.automaticName_injective (congrArg ("p_" ++ ·) same)

/-- A number and what follows it can be told apart. -/
theorem toString_append_inj {m n : Nat} {first second : String} (left : EndsNumber first)
    (right : EndsNumber second) (same : toString m ++ first = toString n ++ second) :
    m = n ∧ first = second := by
  have digits : toString m = toString n := by
    rw [← String.toList_inj, ← takeWhile_toString_append m left, same,
      takeWhile_toString_append n right]
  rw [digits, String.append_right_inj] at same
  exact ⟨toString_injective digits, same⟩

theorem endsNumber_empty : EndsNumber "" := nofun

theorem endsNumber_append {separator : String} {c : Char} (head : separator.toList.head? = some c)
    (plain : c.isDigit = false) (text : String) : EndsNumber (separator ++ text) := by
  intro first member
  rw [String.toList_append, List.head?_append, head] at member
  cases member
  exact plain

/-- A number behind a separator, if there is one. -/
def numbered (separator : String) : Option Nat → String
  | none => ""
  | some n => separator ++ toString n

theorem endsNumber_numbered {separator : String} {c : Char}
    (head : separator.toList.head? = some c) (plain : c.isDigit = false) (number : Option Nat) :
    EndsNumber (numbered separator number) := by
  cases number with
  | none => exact endsNumber_empty
  | some n => exact endsNumber_append head plain _

theorem numbered_inj {separator : String} {first second : Option Nat}
    (same : numbered separator first = numbered separator second) : first = second := by
  have unequal (n : Nat) : separator ++ toString n ≠ "" := by simp
  cases first with
  | none =>
    cases second with
    | none => rfl
    | some n => exact absurd same.symm (unequal n)
  | some m =>
    cases second with
    | none => exact absurd same (unequal m)
    | some n =>
      rw [toString_injective ((String.append_right_inj separator).mp same)]

end Text

open Text (EndsNumber endsNumber_append endsNumber_numbered numbered numbered_inj
  toString_append_inj)

namespace Dialect

variable (dialect : Dialect)

/-! ## The text of a window -/

/-- How a window tells how many rows it leaves out. -/
def offsetText (offset : UInt64) : String :=
  match dialect.paging with
  | .limitOffset => " OFFSET " ++ toString offset.toNat
  | .limitPair => " LIMIT " ++ toString offset.toNat ++ ", "
  | .offsetFetch => " OFFSET " ++ toString offset.toNat ++ " ROWS"

theorem exists_windowText_eq (limit : UInt64) {offset : UInt64} (positive : 0 < offset) :
    ∃ before after,
      dialect.windowText limit offset = before ++ dialect.offsetText offset ++ after := by
  rw [windowText, offsetText]
  cases dialect.paging with
  | limitOffset =>
    refine ⟨" LIMIT " ++ toString limit.toNat, "", ?_⟩
    simp only [if_pos positive, String.append_assoc, String.append_empty]
  | limitPair =>
    refine ⟨"", toString limit.toNat, ?_⟩
    simp only [if_pos positive, String.append_assoc, String.empty_append]
  | offsetFetch =>
    refine ⟨"", " FETCH NEXT " ++ toString limit.toNat ++ " ROWS ONLY", ?_⟩
    have words : " ROWS FETCH NEXT " = " ROWS" ++ " FETCH NEXT " := rfl
    simp only [words, String.append_assoc, String.empty_append]

theorem windowText_ne_empty (limit offset : UInt64) : dialect.windowText limit offset ≠ "" := by
  intro empty
  have length := congrArg String.length empty
  rw [windowText] at length
  revert length
  cases dialect.paging <;> dsimp only <;> (try split) <;> simp [String.length_append]

variable {dialect} {limit limit' offset offset' : UInt64}

/-- The number of a nonzero offset. -/
def skipped? (offset : UInt64) : Option Nat :=
  if 0 < offset then some offset.toNat else none

theorem skipped?_inj (same : skipped? offset = skipped? offset') : offset = offset' := by
  have zero {n : UInt64} (missing : ¬ 0 < n) : n = 0 := by simpa using UInt64.not_lt.mp missing
  simp only [skipped?] at same
  split at same <;> split at same
  · exact UInt64.toNat_inj.mp (Option.some.inj same)
  · cases same
  · cases same
  · rename_i missing missing'
    rw [zero missing, zero missing']

/-- A zero offset is left out behind the limit. -/
theorem windowText_inj_limitOffset (paging : dialect.paging = .limitOffset)
    (same : dialect.windowText limit offset = dialect.windowText limit' offset') :
    limit = limit' ∧ offset = offset' := by
  have written (limit offset : UInt64) : dialect.windowText limit offset =
      " LIMIT " ++ (toString limit.toNat ++ numbered " OFFSET " (skipped? offset)) := by
    simp only [windowText, paging, skipped?]
    split <;> simp [numbered, String.append_assoc]
  have ends := @endsNumber_numbered " OFFSET " ' ' rfl rfl
  rw [written, written, String.append_right_inj] at same
  obtain ⟨limits, offsets⟩ := toString_append_inj (ends _) (ends _) same
  exact ⟨UInt64.toNat_inj.mp limits, skipped?_inj (numbered_inj offsets)⟩

/-- A zero offset is left out in front of the limit, and a nonzero one takes its place. -/
theorem windowText_inj_limitPair (paging : dialect.paging = .limitPair)
    (same : dialect.windowText limit offset = dialect.windowText limit' offset') :
    limit = limit' ∧ offset = offset' := by
  let leading (limit offset : UInt64) : Nat := (skipped? offset).getD limit.toNat
  let trailing (limit offset : UInt64) : Option Nat := (skipped? offset).map fun _ => limit.toNat
  have written (limit offset : UInt64) : dialect.windowText limit offset =
      " LIMIT " ++ (toString (leading limit offset) ++ numbered ", " (trailing limit offset)) := by
    simp only [windowText, paging, leading, trailing, skipped?]
    split <;> simp [numbered, String.append_assoc]
  have ends := @endsNumber_numbered ", " ',' rfl rfl
  rw [written, written, String.append_right_inj] at same
  obtain ⟨firsts, seconds⟩ := toString_append_inj (ends _) (ends _) same
  have seconds := numbered_inj seconds
  have offsets : skipped? offset = skipped? offset' ∧ limit.toNat = limit'.toNat := by
    simp only [leading, trailing] at firsts seconds
    cases skip : skipped? offset <;> cases skip' : skipped? offset' <;> simp_all
  exact ⟨UInt64.toNat_inj.mp offsets.2, skipped?_inj offsets.1⟩

/-- Both numbers are written in any case. -/
theorem windowText_inj_offsetFetch (paging : dialect.paging = .offsetFetch)
    (same : dialect.windowText limit offset = dialect.windowText limit' offset') :
    limit = limit' ∧ offset = offset' := by
  let fetch (limit : UInt64) := " ROWS FETCH NEXT " ++ (toString limit.toNat ++ " ROWS ONLY")
  have written (limit offset : UInt64) : dialect.windowText limit offset =
      " OFFSET " ++ (toString offset.toNat ++ fetch limit) := by
    simp only [windowText, paging, fetch, String.append_assoc]
  have ends (limit : UInt64) : EndsNumber (fetch limit) := endsNumber_append rfl rfl _
  have last : EndsNumber " ROWS ONLY" := @endsNumber_append " " ' ' rfl rfl "ROWS ONLY"
  rw [written, written, String.append_right_inj] at same
  obtain ⟨offsets, fetches⟩ := toString_append_inj (ends limit) (ends limit') same
  simp only [fetch, String.append_right_inj] at fetches
  obtain ⟨limits, -⟩ := toString_append_inj last last fetches
  exact ⟨UInt64.toNat_inj.mp limits, UInt64.toNat_inj.mp offsets⟩

theorem windowText_inj (same : dialect.windowText limit offset = dialect.windowText limit' offset') :
    limit = limit' ∧ offset = offset' := by
  cases paging : dialect.paging with
  | limitOffset => exact windowText_inj_limitOffset paging same
  | limitPair => exact windowText_inj_limitPair paging same
  | offsetFetch => exact windowText_inj_offsetFetch paging same

/-! ## Statements in a window -/

variable (dialect) in
/-- A select with its order in a window. Without a limit there is no window. -/
def inWindow (select : String) (order : Option String) (window : Window) : String :=
  match window.limit with
  | some limit => dialect.page select order limit window.offset
  | none => withOrder select order

variable (dialect) in
/-- The window stands behind a text that does not depend on it and starts with the select and its
order. -/
theorem exists_page_eq_windowText (select : String) (order : Option String) :
    ∃ before, (∃ added, before = withOrder select order ++ added) ∧ ∀ limit offset,
      dialect.page select order limit offset = before ++ dialect.windowText limit offset := by
  simp only [page_eq]
  split
  · refine ⟨withOrder select (some "ORDER BY (SELECT NULL)"), ⟨" ORDER BY (SELECT NULL)", ?_⟩,
      fun _ _ => rfl⟩
    exact String.append_assoc ..
  · exact ⟨_, ⟨"", String.append_empty.symm⟩, fun _ _ => rfl⟩

theorem page_ne_withOrder (select : String) (order : Option String) (limit offset : UInt64) :
    dialect.page select order limit offset ≠ withOrder select order := by
  obtain ⟨_, ⟨added, rfl⟩, written⟩ := dialect.exists_page_eq_windowText select order
  rw [written, String.append_assoc]
  intro same
  rw [String.append_eq_left_iff] at same
  exact dialect.windowText_ne_empty limit offset (String.append_eq_empty_iff.mp same).2

/-- Two windows are told apart by the statement unless neither has a limit. -/
theorem inWindow_eq_iff (select : String) (order : Option String) (first second : Window) :
    dialect.inWindow select order first = dialect.inWindow select order second ↔
      first = second ∨ first.limit = none ∧ second.limit = none := by
  obtain ⟨limit, offset⟩ := first
  obtain ⟨limit', offset'⟩ := second
  cases limit with
  | none =>
    cases limit' with
    | none => simp [inWindow]
    | some limit' => simpa [inWindow] using (page_ne_withOrder select order limit' offset').symm
  | some limit =>
    cases limit' with
    | none => simpa [inWindow] using page_ne_withOrder select order limit offset
    | some limit' =>
      obtain ⟨_, -, written⟩ := dialect.exists_page_eq_windowText select order
      simp only [inWindow, written, String.append_right_inj]
      constructor
      · intro same
        obtain ⟨rfl, rfl⟩ := windowText_inj same
        exact .inl rfl
      · rintro (same | ⟨missing, -⟩)
        · cases same
          rfl
        · cases missing

end Dialect

namespace Query

variable {query : Query} {window : Window} {sql : String}

theorem orderClause_setWindow (query : Query) (window : Window) :
    (query.setWindow window).orderClause = query.orderClause := by
  rw [orderClause_eq, orderClause_eq]
  rfl

/-- A query that can be rendered in one window can be rendered in all of them, from one select and
one order. -/
theorem exists_render_setWindow (rendered : ((query.setWindow window).render .full).1 = .ok sql) :
    ∃ select order, ∀ other, ((query.setWindow other).render .full).1 =
      .ok (query.dialect.inWindow select order other) := by
  obtain ⟨select, order, core, whole, selected, ordered, -, -⟩ :=
    (query.setWindow window).exists_of_render_full rendered
  rw [orderClause_setWindow] at ordered
  refine ⟨select, order, ?_⟩
  intro other
  have run : (query.setWindow other).statement.run (query.setWindow other).freshBindings =
      (.ok (query.dialect.inWindow select order other), whole) := by
    have selected : (query.setWindow other).selectStatement.run
        (query.setWindow other).freshBindings = (.ok select, core) := selected
    rw [statement, Rendering.run_bind_ok selected, orderClause_setWindow,
      Rendering.run_bind_ok ordered]
    rfl
  rw [render, toSql, compile_of_run _ run]

end Query

end SqlQuery
