import SqlQuery.Proofs.Bindings.Automatic
import SqlQuery.Proofs.Data.Dictionary

/-! # Names that are not in use

An automatic name is searched for from the number of bindings on, up to the first number whose name
is free. There are more numbers to try than names in use, so the search ends. It never finds a name
that is in use, whichever names were bound before; so only a value bound to the same name by name
replaces a value.
-/

namespace SqlQuery.Bindings

/-! ## The search -/

/-- A search through the indices, with the number of its probes and the first free index. -/
inductive Search (taken : Nat → Bool) : (index probes found : Nat) → Prop
  | hit {index : Nat} (free : taken index = false) : Search taken index 1 index
  | miss {index probes found : Nat} (used : taken index = true)
      (rest : Search taken (index + 1) probes found) : Search taken index (probes + 1) found

namespace Search

variable {taken : Nat → Bool} {index probes found : Nat}

theorem index_le (search : Search taken index probes found) : index ≤ found := by
  induction search with
  | hit free => exact Nat.le_refl _
  | miss used rest ih => omega

theorem free (search : Search taken index probes found) : taken found = false := by
  induction search with
  | hit free => exact free
  | miss used rest ih => exact ih

theorem least (search : Search taken index probes found) {other : Nat} (from_index : index ≤ other)
    (below : other < found) : taken other = true := by
  induction search with
  | hit free => omega
  | @miss index _ _ used rest ih =>
    rcases Nat.eq_or_lt_of_le from_index with rfl | later
    · exact used
    · exact ih later below

/-- A bounded search is not cut short if an index within its bound is free. -/
theorem exists_of_free {distance : Nat} (near : distance ≤ probes)
    (free : taken (index + distance) = false) :
    ∃ made ≤ probes + 1, Search taken index made (firstFree taken probes index) := by
  induction probes generalizing index distance with
  | zero =>
    obtain rfl := Nat.le_zero.mp near
    exact ⟨1, Nat.le_refl _, .hit free⟩
  | succ probes ih =>
    rw [firstFree]
    split
    · rename_i used
      cases distance with
      | zero => rw [Nat.add_zero, used] at free; contradiction
      | succ distance =>
        have onward : taken (index + 1 + distance) = false := by
          rwa [Nat.add_right_comm index 1 distance, Nat.add_assoc]
        obtain ⟨made, bound, search⟩ := ih (Nat.le_of_succ_le_succ near) onward
        exact ⟨made + 1, Nat.succ_le_succ bound, .miss used search⟩
    · rename_i unused
      exact ⟨1, by omega, .hit (Bool.eq_false_iff.mpr unused)⟩

end Search

variable (bindings : Bindings)

/-- Whether the automatic name of a number is in use. -/
def isTaken (number : Nat) : Bool :=
  bindings.values.contains (automaticName number)

theorem find?_of_isTaken_eq_false {bindings : Bindings} {number : Nat}
    (free : bindings.isTaken number = false) :
    bindings.values.find? (automaticName number) = none :=
  Option.not_isSome_iff_eq_none.mp (Bool.eq_false_iff.mp free)

/-- Of the numbers after the number of bindings, as many as there are bindings cannot all be taken
and the next one as well: their names are different. -/
theorem exists_free : ∃ distance ≤ bindings.values.size,
    bindings.isTaken (bindings.values.size + distance) = false := by
  refine Classical.byContradiction fun none => ?_
  let candidates := (List.range (bindings.values.size + 1)).map fun distance =>
    automaticName (bindings.values.size + distance)
  have distinct : candidates.Nodup := by
    refine List.pairwise_map.mpr (List.nodup_range.imp fun different same => different ?_)
    exact Nat.add_left_cancel (automaticName_injective same)
  have present : ∀ name ∈ candidates, bindings.values.contains name := by
    intro name member
    obtain ⟨distance, inRange, rfl⟩ := List.mem_map.mp member
    refine Bool.of_not_eq_false fun free => none ⟨distance, ?_, free⟩
    exact Nat.le_of_lt_succ (List.mem_range.mp inRange)
  have bound := Dictionary.length_le_size distinct present
  simp only [candidates, List.length_map, List.length_range] at bound
  omega

/-- The search for an automatic name ends, with at most one probe more than there are bindings. -/
theorem exists_search : ∃ probes ≤ bindings.values.size + 1,
    Search bindings.isTaken bindings.values.size probes bindings.nextIndex := by
  obtain ⟨distance, near, free⟩ := bindings.exists_free
  exact Search.exists_of_free near free

/-! ## Binding a value -/

/-- Bindings with one more entry: a value under the least automatic name that was free, counting
from the number of bindings. -/
structure BindsAt (before : Bindings) (value : Value) (number : Nat) (after : Bindings) : Prop where
  counted : before.values.size ≤ number
  free : before.isTaken number = false
  least : ∀ other, before.values.size ≤ other → other < number → before.isTaken other = true
  marker_eq : after.marker = before.marker
  size_eq : after.values.size = before.values.size + 1
  find?_eq : ∀ name, after.values.find? name =
    if name = automaticName number then some value else before.values.find? name

theorem bind_bindsAt (value : Value) :
    BindsAt bindings value bindings.nextIndex (bindings.bind value).2 := by
  obtain ⟨probes, -, search⟩ := bindings.exists_search
  exact {
    counted := search.index_le
    free := search.free
    least := fun _ => search.least
    marker_eq := rfl
    size_eq := Dictionary.size_insert_of_absent (find?_of_isTaken_eq_false search.free)
    find?_eq := fun name => Dictionary.find?_insert _ _ name value }

/-- An entry that was there stays. -/
theorem BindsAt.find?_of_some {before after : Bindings} {value old : Value} {number : Nat}
    {name : String} (binds : BindsAt before value number after)
    (found : before.values.find? name = some old) : after.values.find? name = some old := by
  rw [binds.find?_eq, if_neg]
  · exact found
  · rintro rfl
    rw [find?_of_isTaken_eq_false binds.free] at found
    contradiction

/-! ## Binding several values -/

/-- Bindings with one more entry for each of some values, under automatic names that were free; the
numbers of the names grow in the order of the values. -/
structure Gains (before : Bindings) (values : List Value) (numbers : List Nat) (after : Bindings) :
    Prop where
  length_eq : numbers.length = values.length
  counted : ∀ number ∈ numbers, before.values.size ≤ number
  free : ∀ number ∈ numbers, before.isTaken number = false
  ascending : numbers.Pairwise (· < ·)
  marker_eq : after.marker = before.marker
  size_eq : after.values.size = before.values.size + values.length
  find?_eq_some_iff : ∀ name value, after.values.find? name = some value ↔
    before.values.find? name = some value ∨ (name, value) ∈ (numbers.map automaticName).zip values

namespace Gains

variable {before between after : Bindings} {value : Value} {values : List Value} {number : Nat}
  {numbers : List Nat}

theorem nil (bindings : Bindings) : Gains bindings [] [] bindings where
  length_eq := rfl
  counted := by simp
  free := by simp
  ascending := .nil
  marker_eq := rfl
  size_eq := rfl
  find?_eq_some_iff := by simp

theorem cons (binds : BindsAt before value number between)
    (gains : Gains between values numbers after) :
    Gains before (value :: values) (number :: numbers) after := by
  -- What was taken before is taken between, and the new number is.
  have taken_of_taken {other : Nat} (taken : before.isTaken other = true) :
      between.isTaken other = true := by
    obtain ⟨old, found⟩ := Option.isSome_iff_exists.mp taken
    exact Option.isSome_iff_exists.mpr ⟨old, binds.find?_of_some found⟩
  have taken_number : between.isTaken number = true := by
    rw [isTaken, Dictionary.contains, binds.find?_eq, if_pos rfl]
    rfl
  have above (other : Nat) (member : other ∈ numbers) : number < other := by
    have free := gains.free other member
    have counted := gains.counted other member
    rw [binds.size_eq] at counted
    rcases Nat.lt_trichotomy number other with later | rfl | earlier
    · exact later
    · rw [taken_number] at free
      contradiction
    · rw [taken_of_taken (binds.least other (by omega) earlier)] at free
      contradiction
  constructor
  · rw [List.length_cons, List.length_cons, gains.length_eq]
  · refine List.forall_mem_cons.mpr ⟨binds.counted, fun other member => ?_⟩
    exact Nat.le_trans binds.counted (Nat.le_of_lt (above other member))
  · refine List.forall_mem_cons.mpr ⟨binds.free, fun other member => ?_⟩
    refine Bool.eq_false_iff.mpr fun taken => ?_
    have still := taken_of_taken taken
    rw [gains.free other member] at still
    contradiction
  · exact .cons above gains.ascending
  · rw [gains.marker_eq, binds.marker_eq]
  · rw [gains.size_eq, binds.size_eq, List.length_cons]
    omega
  · intro name found
    rw [gains.find?_eq_some_iff, binds.find?_eq, List.map_cons, List.zip_cons_cons, List.mem_cons,
      Prod.mk.injEq, ← or_assoc]
    refine or_congr_left ?_
    split
    · rename_i same
      subst same
      simp [find?_of_isTaken_eq_false binds.free, eq_comm]
    · rename_i different
      simp [different]

theorem find?_of_some (gains : Gains before values numbers after) {name : String} {old : Value}
    (found : before.values.find? name = some old) : after.values.find? name = some old :=
  (gains.find?_eq_some_iff name old).mpr (.inl found)

theorem nodup (gains : Gains before values numbers after) :
    (numbers.map automaticName).Nodup := by
  refine List.pairwise_map.mpr (gains.ascending.imp fun before same => ?_)
  exact Nat.ne_of_lt before (automaticName_injective same)

end Gains

/-! ## Runs of registrations -/

/-- Binds a value to an automatic name or to a given one. -/
inductive Registration
  | automatic (value : Value)
  | named (name : String) (value : Value)

def register (bindings : Bindings) : Registration → String × Bindings
  | .automatic value => bindings.bind value
  | .named name value => bindings.bindNamed name value

/-- The placeholders and the bindings after some registrations. -/
def registerAll : Bindings → List Registration → List String × Bindings
  | bindings, [] => ([], bindings)
  | bindings, first :: rest =>
    let (placeholder, next) := bindings.register first
    let (placeholders, last) := registerAll next rest
    (placeholder :: placeholders, last)

theorem registerAll_append (first second : List Registration) :
    bindings.registerAll (first ++ second) =
      ((bindings.registerAll first).1 ++ ((bindings.registerAll first).2.registerAll second).1,
        ((bindings.registerAll first).2.registerAll second).2) := by
  induction first generalizing bindings with
  | nil => rfl
  | cons registration rest ih => simp only [List.cons_append, registerAll, ih]

@[simp] theorem length_registerAll (registrations : List Registration) :
    (bindings.registerAll registrations).1.length = registrations.length := by
  induction registrations generalizing bindings with
  | nil => rfl
  | cons registration rest ih => simp only [registerAll, List.length_cons, ih]

@[simp] theorem marker_registerAll (registrations : List Registration) :
    (bindings.registerAll registrations).2.marker = bindings.marker := by
  induction registrations generalizing bindings with
  | nil => rfl
  | cons registration rest ih =>
    rw [registerAll, ih]
    cases registration <;> rfl

/-- The placeholder at a position is the one given after the registrations before it. -/
theorem getElem?_registerAll {registrations : List Registration} {index : Nat}
    {registration : Registration} (present : registrations[index]? = some registration) :
    (bindings.registerAll registrations).1[index]? =
      some ((bindings.registerAll (registrations.take index)).2.register registration).1 := by
  obtain ⟨inside, rfl⟩ := List.getElem?_eq_some_iff.mp present
  have split : registrations =
      registrations.take index ++ registrations[index] :: registrations.drop (index + 1) := by
    rw [List.getElem_cons_drop, List.take_append_drop]
  have before : (bindings.registerAll (registrations.take index)).1.length = index := by
    rw [length_registerAll, List.length_take_of_le (Nat.le_of_lt inside)]
  conv => lhs; rw [split, registerAll_append]
  rw [List.getElem?_append_right (Nat.le_of_eq before), before, Nat.sub_self]
  rfl

section

variable {name : String} {value : Value}

/-- A registration replaces a value only if it binds the same name by name. -/
theorem find?_register (found : bindings.values.find? name = some value)
    {registration : Registration} (other : ∀ changed, registration ≠ .named name changed) :
    (bindings.register registration).2.values.find? name = some value := by
  cases registration with
  | automatic bound => exact (bindings.bind_bindsAt bound).find?_of_some found
  | named key bound =>
    rw [register, bindNamed, Dictionary.find?_insert, if_neg]
    · exact found
    · rintro rfl
      exact other bound rfl

theorem find?_registerAll (found : bindings.values.find? name = some value)
    {registrations : List Registration} (others : ∀ changed, .named name changed ∉ registrations) :
    (bindings.registerAll registrations).2.values.find? name = some value := by
  induction registrations generalizing bindings with
  | nil => exact found
  | cons registration rest ih =>
    refine ih _ (bindings.find?_register found ?_) ?_
    · rintro changed rfl
      exact others changed (List.mem_cons_self ..)
    · exact fun changed member => others changed (List.mem_cons_of_mem _ member)

/-- A name in use stays in use. -/
theorem contains_register (used : bindings.values.contains name) (registration : Registration) :
    (bindings.register registration).2.values.contains name := by
  cases registration with
  | automatic bound =>
    rw [register, bind, bindNamed, Dictionary.contains_insert, used, Bool.or_true]
  | named key bound => rw [register, bindNamed, Dictionary.contains_insert, used, Bool.or_true]

theorem contains_registerAll (used : bindings.values.contains name)
    (registrations : List Registration) :
    (bindings.registerAll registrations).2.values.contains name := by
  induction registrations generalizing bindings with
  | nil => exact used
  | cons registration rest ih => exact ih _ (bindings.contains_register used registration)

end

/-- The name of an automatic placeholder is in use from then on. -/
theorem contains_automaticName_later {registrations : List Registration} {first second : Nat}
    {value : Value} (order : first < second)
    (here : registrations[first]? = some (.automatic value)) :
    (bindings.registerAll (registrations.take second)).2.values.contains
      (automaticName (bindings.registerAll (registrations.take first)).2.nextIndex) := by
  let before := (bindings.registerAll (registrations.take first)).2
  have split : registrations.take second = registrations.take first ++
      .automatic value :: (registrations.take second).drop (first + 1) := by
    conv => lhs; rw [← List.take_append_drop (first + 1) (registrations.take second)]
    rw [List.take_take, Nat.min_eq_left order, List.take_add_one, here, Option.toList_some,
      List.append_assoc, List.singleton_append]
  have bound : (before.register (.automatic value)).2.values.contains
      (automaticName before.nextIndex) := by
    rw [register, bind, bindNamed, Dictionary.contains_insert, beq_self_eq_true, Bool.true_or]
  rw [split, registerAll_append]
  exact contains_registerAll _ bound _

/-- No two automatic placeholders are the same: what a search finds was in no use before. -/
theorem placeholder_ne {registrations : List Registration} {first second : Nat} {early late : Value}
    (order : first < second) (here : registrations[first]? = some (.automatic early))
    (there : registrations[second]? = some (.automatic late)) :
    (bindings.registerAll registrations).1[first]? ≠
      (bindings.registerAll registrations).1[second]? := by
  rw [bindings.getElem?_registerAll here, bindings.getElem?_registerAll there]
  intro same
  let before := (bindings.registerAll (registrations.take first)).2
  let later := (bindings.registerAll (registrations.take second)).2
  have names : automaticName before.nextIndex = automaticName later.nextIndex := by
    have equal : before.marker ++ automaticName before.nextIndex =
        later.marker ++ automaticName later.nextIndex := Option.some.inj same
    rw [marker_registerAll, marker_registerAll] at equal
    exact (String.append_right_inj _).mp equal
  have inUse := bindings.contains_automaticName_later order here
  have free := (later.bind_bindsAt late).free
  rw [isTaken, ← names, inUse] at free
  contradiction

/-- Where no names are given, the values are numbered in turn. -/
theorem Automatic.placeholders_eq {bindings : Bindings} {bound : List Value}
    (automatic : bindings.Automatic bound) (values : List Value) :
    (bindings.registerAll (values.map .automatic)).1 =
      (List.range' bound.length values.length).map fun number =>
        bindings.marker ++ automaticName number := by
  induction values generalizing bindings bound with
  | nil => rfl
  | cons value rest ih =>
    have later := ih (automatic.bind_snd value)
    rw [List.length_append, List.length_singleton] at later
    rw [List.map_cons, registerAll, List.length_cons, List.range'_succ, List.map_cons,
      ← automatic.bind_fst value]
    exact congrArg (_ :: ·) later

/-- After any registrations, the search for an automatic name ends with at most one probe more than
there are bindings; it finds the least free number, and the value bound under it is the only change.
No two automatic placeholders of a run are the same, and a value is replaced only by a registration
that names it. Without given names the placeholders are numbered from zero. -/
theorem registrations_keep_apart (marker : String) (registrations : List Registration) :
    let start : Bindings := { marker }
    let placeholders := (start.registerAll registrations).1
    let reached := (start.registerAll registrations).2
    (∀ value, ∃ number,
      (∃ probes ≤ reached.values.size + 1,
        Search reached.isTaken reached.values.size probes number) ∧
      (reached.bind value).1 = marker ++ automaticName number ∧
      BindsAt reached value number (reached.bind value).2) ∧
    (∀ (first second : Nat) (early late : Value), first < second →
      registrations[first]? = some (Registration.automatic early) →
      registrations[second]? = some (Registration.automatic late) →
      placeholders[first]? ≠ placeholders[second]?) ∧
    (∀ (before after : List Registration) (name : String) (value : Value),
      registrations = before ++ after →
      (start.registerAll before).2.values.find? name = some value →
      (∀ changed, .named name changed ∉ after) →
      reached.values.find? name = some value) ∧
    ∀ (values : List Value) (index : Nat), registrations = values.map .automatic →
      index < values.length →
      placeholders[index]? = some (marker ++ "p_" ++ toString index) := by
  intro start placeholders reached
  refine ⟨?_, ?_, ?_, ?_⟩
  · intro value
    refine ⟨reached.nextIndex, reached.exists_search, ?_, reached.bind_bindsAt value⟩
    have marked : reached.marker = marker := start.marker_registerAll registrations
    rw [← marked]
    rfl
  · exact fun first second early late order here there => start.placeholder_ne order here there
  · rintro before after name value rfl found others
    rw [show reached = _ from congrArg (·.2) (start.registerAll_append before after)]
    exact find?_registerAll _ found others
  · rintro values index rfl inside
    rw [show placeholders = _ from (Automatic.fresh marker).placeholders_eq values,
      List.getElem?_map, List.getElem?_range' inside, String.append_assoc]
    simp [automaticName]

end SqlQuery.Bindings
