/-
Asking one argument again. A native argument gives the same answers each
time exactly when no stream with items stands inside it; the argument may
be a stream itself, since as such it keeps its items.

All answers are told by the elements the argument has left, and where no
stream is inside, no question takes any of them: that is what one question
keeps, and by it every sequence of questions. Where there is one, its items
are missing from the second machine form, which is shorter than the first:
the form of a native value is never empty, so each item shows.
-/
import TildeFormat.Value.Reading
import TildeFormat.Proofs.Value.Reader

namespace TildeFormat

-- ============================================================= observing

/-- What is seen of an answer: of elements only their texts, of each the
human one and then the machine one. -/
inductive Observed where
  | text (t : Text)
  | integer (n : Option Int)
  | float (x : Except Fault (Option Binary64))
  | elements (texts : Option (List (Text × Text)))

/-- What is seen of an answer. -/
def Answer.observed : Answer → Observed
  | text t => .text t
  | integer n => .integer n
  | float x => .float x
  | sequence items => .elements (items.map fun items =>
      items.map fun v => (v.text .human, v.afterText.text .machine))

namespace Value

/-- What is seen when an argument is asked, and what is left of it: looking
at elements takes their texts. -/
def observe (v : Value) (capability : Capability) : Observed × Value :=
  let (answer, left) := v.ask capability
  (answer.observed,
    match answer with
    | .sequence (some _) => left.afterText
    | _ => left)

/-- What is seen when one argument is asked several times. -/
def observations : Value → List Capability → List (Capability × Observed)
  | _, [] => []
  | v, capability :: rest =>
    (capability, (v.observe capability).1)
      :: (v.observe capability).2.observations rest

/-- The same question to one argument is always answered the same, whatever
else it is asked before and in between. -/
def Repeatable (v : Value) : Prop :=
  ∀ asked capability a b, (capability, a) ∈ v.observations asked →
    (capability, b) ∈ v.observations asked → a = b

-- ================================================================= parts

/-- What a container holds. -/
def parts : Value → List Value
  | list items => items
  | tuple items => items
  | stream items => items
  | map entries => entries.flatMap fun e => [e.1, e.2]
  | _ => []

/-- A value stands inside another, at any depth. -/
inductive Inside (u : Value) : Value → Prop where
  | part {v : Value} (h : u ∈ v.parts) : Inside u v
  | deeper {v w : Value} (h : v ∈ w.parts) (hu : Inside u v) : Inside u w

/-- A value that is not a custom one. -/
def isNative : Value → Bool
  | custom .. => false
  | _ => true

/-- A native value with nothing but native values inside. -/
def Native (v : Value) : Prop :=
  v.isNative ∧ ∀ u, Inside u v → u.isNative

/-- What is inside a value is one of its parts or inside one. -/
theorem inside_iff {u v : Value} :
    Inside u v ↔ ∃ w ∈ v.parts, u = w ∨ Inside u w := by
  constructor
  · rintro (h | ⟨h, hu⟩)
    · exact ⟨u, h, .inl rfl⟩
    · exact ⟨_, h, .inr hu⟩
  · rintro ⟨w, hw, rfl | hu⟩
    · exact .part hw
    · exact .deeper hw hu

/-- A value is native when it is so itself and in its parts. -/
theorem native_iff {v : Value} :
    v.Native ↔ v.isNative ∧ ∀ u ∈ v.parts, u.Native := by
  refine and_congr_right fun _ => ⟨fun h u hu => ?_, fun h u hu => ?_⟩
  · exact ⟨h u (.part hu), fun w hw => h w (.deeper hu hw)⟩
  · obtain ⟨w, hw, rfl | hinside⟩ := inside_iff.mp hu
    · exact (h u hw).1
    · exact (h w hw).2 u hinside

/-- The parts of a native value are native. -/
theorem Native.of_part {u v : Value} (h : v.Native) (hu : u ∈ v.parts) :
    u.Native :=
  (native_iff.mp h).2 u hu

/-- A part of a map is the key or the value of an entry. -/
theorem mem_parts_map_iff {entries : List (Value × Value)} {u : Value} :
    u ∈ (map entries).parts ↔ ∃ e ∈ entries, u = e.1 ∨ u = e.2 := by
  simp only [parts, List.mem_flatMap, List.mem_cons, List.not_mem_nil,
    or_false]

/-- Keys and values are parts of a map. -/
theorem mem_parts_map {entries : List (Value × Value)}
    {e : Value × Value} (he : e ∈ entries) :
    e.1 ∈ (map entries).parts ∧ e.2 ∈ (map entries).parts :=
  ⟨mem_parts_map_iff.mpr ⟨e, he, .inl rfl⟩,
    mem_parts_map_iff.mpr ⟨e, he, .inr rfl⟩⟩

/-- Parts are smaller, so what is said of parts is said by induction. -/
theorem sizeOf_lt_of_mem_parts {u v : Value} (h : u ∈ v.parts) :
    sizeOf u < sizeOf v := by
  cases v with
  | list items =>
      have := List.sizeOf_lt_of_mem (show u ∈ items from h)
      rw [list.sizeOf_spec]
      omega
  | tuple items =>
      have := List.sizeOf_lt_of_mem (show u ∈ items from h)
      rw [tuple.sizeOf_spec]
      omega
  | stream items =>
      have := List.sizeOf_lt_of_mem (show u ∈ items from h)
      rw [stream.sizeOf_spec]
      omega
  | map entries =>
      obtain ⟨e, he, hu⟩ := mem_parts_map_iff.mp h
      have := List.sizeOf_lt_of_mem he
      rw [Prod.mk.sizeOf_spec] at this
      rw [map.sizeOf_spec]
      rcases hu with rfl | rfl <;> omega
  | _ => exact absurd h List.not_mem_nil

/-- What holds of a value when it holds of its parts holds of all. -/
theorem parts_induction {motive : Value → Prop}
    (step : ∀ v, (∀ u ∈ v.parts, motive u) → motive v) (v : Value) :
    motive v :=
  step v fun u hu =>
    have := sizeOf_lt_of_mem_parts hu
    parts_induction step u
termination_by sizeOf v

-- ============================================================== draining

/-- Items are drained one by one. -/
theorem drainedAll_eq_map (items : List Value) :
    drainedAll items = items.map drained := by
  induction items with
  | nil => rfl
  | cons v rest ih => rw [drainedAll, ih, List.map_cons]

/-- And so are entries. -/
theorem drainedEntries_eq_map (entries : List (Value × Value)) :
    drainedEntries entries
      = entries.map fun e => (e.1.drained, e.2.drained) := by
  induction entries with
  | nil => rfl
  | cons e rest ih => rw [drainedEntries, ih, List.map_cons]

theorem map_eq_of_forall {α : Type} {f : α → α} {as : List α}
    (h : ∀ a ∈ as, f a = a) : as.map f = as :=
  (List.map_congr_left h).trans (List.map_id' as)

/-- Taking the text of a value leaves it as it is, when every stream in it
is empty. -/
theorem drained_eq {v : Value}
    (hself : ∀ items, v = stream items → items = [])
    (hinside : ∀ items, Inside (stream items) v → items = []) :
    v.drained = v := by
  induction v using parts_induction with
  | step v ih =>
      have hparts : ∀ u ∈ v.parts, u.drained = u := fun u hu =>
        ih u hu (fun items h => hinside items (.part (h ▸ hu)))
          fun items h => hinside items (.deeper hu h)
      cases v with
      | list items =>
          rw [drained, drainedAll_eq_map]
          exact congrArg list (map_eq_of_forall hparts)
      | tuple items =>
          rw [drained, drainedAll_eq_map]
          exact congrArg tuple (map_eq_of_forall hparts)
      | stream items => rw [hself items rfl, drained]
      | map entries =>
          have hentries : ∀ e ∈ entries, (e.1.drained, e.2.drained) = e :=
            fun e he => Prod.ext (hparts _ (mem_parts_map he).1)
              (hparts _ (mem_parts_map he).2)
          rw [drained, drainedEntries_eq_map, map_eq_of_forall hentries]
      | _ => rfl

/-- What the text leaves of an argument it leaves of its elements. -/
theorem afterText_eq (v : Value) : v.afterText = v.afterElements.drained := by
  cases v <;> rfl

/-- Taking the elements off a value leaves its texts as they were. -/
theorem text_afterElements (form : Form) (v : Value) :
    v.afterElements.text form = v.text form := by
  cases v <;> rfl

/-- And its parts. -/
theorem parts_afterElements (v : Value) :
    v.afterElements.parts = v.parts := by
  cases v <;> rfl

/-- A second time it changes nothing. -/
theorem afterElements_afterElements (v : Value) :
    v.afterElements.afterElements = v.afterElements := by
  cases v <;> rfl

/-- A stream is a list afterwards. -/
theorem afterElements_ne_stream (v : Value) (items : List Value) :
    v.afterElements ≠ stream items := by
  cases v <;> rintro ⟨⟩

/-- So what is inside stays inside. -/
theorem inside_afterElements {u v : Value} :
    Inside u v.afterElements ↔ Inside u v := by
  rw [inside_iff, inside_iff, parts_afterElements]

-- ======================================================= nothing is taken

/-- What is seen of an argument is told by the elements it has. -/
theorem observe_afterElements (v : Value) (capability : Capability) :
    (v.afterElements.observe capability).1 = (v.observe capability).1 := by
  cases capability with
  | text form => exact congrArg Observed.text (text_afterElements form v)
  | integer => cases v <;> rfl
  | float => cases v <;> rfl
  | sequence => cases v <;> rfl

/-- A question leaves an argument its elements, when their texts take
nothing. -/
theorem observe_keeps {v : Value}
    (h : v.afterElements.drained = v.afterElements)
    (capability : Capability) :
    (v.observe capability).2.afterElements = v.afterElements := by
  have htext : v.afterText.afterElements = v.afterElements := by
    rw [afterText_eq, h, afterElements_afterElements]
  cases capability with
  | text form => exact htext
  | integer => rfl
  | float => rfl
  | sequence =>
      show (match Answer.sequence v.elements? with
        | .sequence (some _) => v.afterElements.afterText
        | _ => v.afterElements).afterElements = _
      split
      · rw [afterText_eq, afterElements_afterElements, h,
          afterElements_afterElements]
      · exact afterElements_afterElements v

/-- Every answer is the one that the argument gives first. -/
theorem observations_eq {v : Value}
    (h : v.afterElements.drained = v.afterElements)
    {asked : List Capability} {capability : Capability} {a : Observed}
    (ha : (capability, a) ∈ v.observations asked) :
    a = (v.afterElements.observe capability).1 := by
  induction asked generalizing v with
  | nil => cases ha
  | cons first rest ih =>
      rcases List.mem_cons.mp ha with hfirst | hrest
      · cases hfirst
        exact (observe_afterElements v capability).symm
      · have hkeeps := observe_keeps h first
        have := ih (hkeeps.symm ▸ h) hrest
        rw [this, hkeeps]

-- ======================================================= items are missed

end Value

/-- What is joined is as long as all of it and the separators between. -/
theorem Text.length_join_eq (separator : Text) (ts : List Text) :
    (Text.join separator ts).length
      = ts.flatten.length + (ts.length - 1) * separator.length := by
  induction ts with
  | nil => simp [Text.join]
  | cons s ts ih =>
      cases ts with
      | nil => simp [Text.join]
      | cons r ts =>
          rw [Text.join_cons_cons, List.length_append, List.length_append, ih]
          simp only [List.flatten_cons, List.length_append, List.length_cons,
            Nat.add_sub_cancel, Nat.add_mul]
          omega

section

variable {α : Type} {f g : α → Text} {as : List α} (left right : Character)

/-- Texts that are no longer one by one are no longer together. -/
theorem length_flatten_le (h : ∀ a ∈ as, (f a).length ≤ (g a).length) :
    (as.map f).flatten.length ≤ (as.map g).flatten.length := by
  induction as with
  | nil => exact Nat.le_refl _
  | cons a as ih =>
      obtain ⟨hfirst, hrest⟩ := List.forall_mem_cons.mp h
      simp only [List.map_cons, List.flatten_cons, List.length_append]
      exact Nat.add_le_add hfirst (ih hrest)

/-- And shorter together where one of them is. -/
theorem length_flatten_lt (h : ∀ a ∈ as, (f a).length ≤ (g a).length)
    {a : α} (ha : a ∈ as) (hlt : (f a).length < (g a).length) :
    (as.map f).flatten.length < (as.map g).flatten.length := by
  induction as with
  | nil => exact absurd ha List.not_mem_nil
  | cons b as ih =>
      obtain ⟨hfirst, hrest⟩ := List.forall_mem_cons.mp h
      simp only [List.map_cons, List.flatten_cons, List.length_append]
      rcases List.mem_cons.mp ha with rfl | ha
      · exact Nat.add_lt_add_of_lt_of_le hlt (length_flatten_le hrest)
      · exact Nat.add_lt_add_of_le_of_lt hfirst (ih hrest ha)

/-- A bracketed text has its parts, two characters between neighbours, and
its brackets. -/
theorem length_bracketed_eq (ts : List Text) :
    (bracketed left right ts).length
      = ts.flatten.length + (ts.length - 1) * 2 + 2 := by
  rw [bracketed, List.length_cons, List.length_append,
    Text.length_join_eq]
  rfl

/-- A container is no longer than one whose parts are no shorter. -/
theorem length_bracketed_le (h : ∀ a ∈ as, (f a).length ≤ (g a).length) :
    (bracketed left right (as.map f)).length
      ≤ (bracketed left right (as.map g)).length := by
  have := length_flatten_le h
  simp only [length_bracketed_eq, List.length_map]
  omega

/-- A container is shorter than one whose parts are no shorter, and one of
them longer. -/
theorem length_bracketed_lt (h : ∀ a ∈ as, (f a).length ≤ (g a).length)
    {a : α} (ha : a ∈ as) (hlt : (f a).length < (g a).length) :
    (bracketed left right (as.map f)).length
      < (bracketed left right (as.map g)).length := by
  have := length_flatten_lt h ha hlt
  simp only [length_bracketed_eq, List.length_map]
  omega

end

/-- An entry has its key, its value, and two characters between. -/
theorem length_entryText (key value : Text) :
    (entryText key value).length = key.length + value.length + 2 := by
  rw [entryText, List.length_append, List.length_cons, List.length_cons]
  omega

theorem Numeral.integer_ne_nil (n : Int) : integer n ≠ [] := by
  unfold integer
  split
  · exact List.cons_ne_nil _ _
  · exact digits_ne_nil _

theorem Magnitude.text_ne_nil (x : Magnitude) : x.text ≠ [] := by
  unfold text
  simp only [Scientific.positional, Scientific.exponential]
  split
  · split
    · exact List.cons_ne_nil _ _
    · split <;> simp
  · simp

theorem Binary64.text_ne_nil (x : Binary64) : x.text ≠ [] := by
  cases x with
  | nan => decide
  | infinite negative => cases negative <;> decide
  | finite negative x =>
      exact List.append_ne_nil_of_right_ne_nil _ x.text_ne_nil

namespace Value

/-- The machine form of a native value is not empty. -/
theorem machineText_ne_nil {v : Value} (h : v.isNative) :
    v.text .machine ≠ [] := by
  cases v with
  | truth b => cases b <;> decide
  | int n => exact Numeral.integer_ne_nil n
  | float x => exact x.text_ne_nil
  | moment m => cases m <;> exact List.cons_ne_nil _ _
  | custom => cases h
  | _ => exact List.cons_ne_nil _ _

/-- Draining makes no text longer. -/
theorem length_text_drained (v : Value) :
    (v.drained.text .machine).length ≤ (v.text .machine).length := by
  induction v using parts_induction with
  | step v ih =>
      cases v with
      | list items | tuple items =>
          rw [drained, text, text, drainedAll_eq_map, texts_eq_map,
            texts_eq_map, List.map_map]
          exact length_bracketed_le _ _ ih
      | stream items =>
          rw [drained, text, text, texts, length_bracketed_eq,
            length_bracketed_eq]
          exact Nat.le_add_left 2 _
      | map entries =>
          rw [drained, text, text, drainedEntries_eq_map, entryTexts_eq_map,
            entryTexts_eq_map, List.map_map]
          refine length_bracketed_le _ _ fun e he => ?_
          have hkey := ih _ (mem_parts_map he).1
          have hvalue := ih _ (mem_parts_map he).2
          simp only [Function.comp, length_entryText]
          omega
      | _ => exact Nat.le_refl _

/-- The items of a stream are missing from its form once it is drained. -/
theorem length_text_drained_stream {items : List Value}
    (hnative : (stream items).Native) (h : items ≠ []) :
    ((stream items).drained.text .machine).length
      < ((stream items).text .machine).length := by
  obtain ⟨v, rest, rfl⟩ := List.exists_cons_of_ne_nil h
  have hv := List.length_pos_iff.mpr
    (machineText_ne_nil (hnative.of_part (List.mem_cons_self ..)).1)
  rw [drained, text, text, texts, texts, length_bracketed_eq,
    length_bracketed_eq, List.flatten_cons, List.length_append]
  show 2 < _
  omega

/-- What a part loses by draining is lost from the form of the whole. -/
theorem length_text_drained_part {u v : Value} (hnative : v.Native)
    (hu : u ∈ v.parts)
    (h : (u.drained.text .machine).length < (u.text .machine).length) :
    (v.drained.text .machine).length < (v.text .machine).length := by
  cases v with
  | list items | tuple items =>
      rw [drained, text, text, drainedAll_eq_map, texts_eq_map, texts_eq_map,
        List.map_map]
      exact length_bracketed_lt _ _ (fun v _ => length_text_drained v) hu h
  | stream items =>
      exact length_text_drained_stream hnative (List.ne_nil_of_mem hu)
  | map entries =>
      obtain ⟨e, he, hsame⟩ := mem_parts_map_iff.mp hu
      rw [drained, text, text, drainedEntries_eq_map, entryTexts_eq_map,
        entryTexts_eq_map, List.map_map]
      refine length_bracketed_lt _ _ (fun e _ => ?_) he ?_
      all_goals
        have hkey := length_text_drained e.1
        have hvalue := length_text_drained e.2
        simp only [Function.comp, length_entryText]
      · omega
      · rcases hsame with rfl | rfl <;> omega
  | _ => exact absurd hu List.not_mem_nil

/-- Items of a stream at any depth are missing from the form of the
whole. -/
theorem length_text_drained_inside {items : List Value} (h : items ≠ [])
    {v : Value} (hnative : v.Native) (hinside : Inside (stream items) v) :
    (v.drained.text .machine).length < (v.text .machine).length := by
  induction hinside with
  | part hpart =>
      exact length_text_drained_part hnative hpart
        (length_text_drained_stream (hnative.of_part hpart) h)
  | deeper hpart _ ih =>
      exact length_text_drained_part hnative hpart
        (ih (hnative.of_part hpart))

-- ================================================================ result

theorem Native.afterElements {v : Value} (h : v.Native) :
    v.afterElements.Native :=
  ⟨by cases v <;> first | rfl | exact h.1,
    fun u hu => h.2 u (inside_afterElements.mp hu)⟩

/-- A native argument is asked again and again with the same answers exactly
when each stream inside it is empty. A stream that is the argument itself
may have items. -/
theorem repeatable_iff {v : Value} (hnative : v.Native) :
    v.Repeatable ↔ ∀ items, Inside (stream items) v → items = [] := by
  constructor
  · intro hrepeatable items hinside
    refine Classical.byContradiction fun hitems => ?_
    -- the machine form, and then the machine form of what that has left
    have hsame : Observed.text (v.text .machine)
        = .text (v.afterText.text .machine) :=
      hrepeatable [.text .machine, .text .machine] (.text .machine) _ _
        (List.mem_cons_self ..) (.tail _ (List.mem_cons_self ..))
    have hshorter := length_text_drained_inside hitems hnative.afterElements
      (inside_afterElements.mpr hinside)
    rw [← afterText_eq, text_afterElements, ← Observed.text.inj hsame]
      at hshorter
    exact Nat.lt_irrefl _ hshorter
  · intro hempty asked capability a b ha hb
    have hkept : v.afterElements.drained = v.afterElements :=
      drained_eq (fun items h => absurd h (afterElements_ne_stream v items))
        fun items h => hempty items (inside_afterElements.mp h)
    rw [observations_eq hkept ha, observations_eq hkept hb]

/-- A stream that is the argument itself, and the same in a list, of which
the second text is not the first. -/
theorem repeatable_iff_streams :
    (stream [int 1, str ['b']]).Native
      ∧ (stream [int 1, str ['b']]).Repeatable
      ∧ (list [stream [int 1, str ['b']]]).Native
      ∧ ¬(list [stream [int 1, str ['b']]]).Repeatable
      ∧ (list [stream [int 1, str ['b']]]).observations
          [.text .human, .text .human]
        = [(.text .human, .text (word "[[1, b]]")),
          (.text .human, .text (word "[[]]"))] := by
  have hatomic : ∀ v : Value, v.isNative → v.parts = [] → v.Native :=
    fun v h hparts => native_iff.mpr ⟨h, fun u hu =>
      absurd hu (hparts ▸ List.not_mem_nil)⟩
  have hfirst : (stream [int 1, str ['b']]).Native :=
    native_iff.mpr ⟨rfl, fun u hu => by
      rcases hu with _ | ⟨_, _ | ⟨_, hnone⟩⟩
      · exact hatomic _ rfl rfl
      · exact hatomic _ rfl rfl
      · cases hnone⟩
  have hsecond : (list [stream [int 1, str ['b']]]).Native :=
    native_iff.mpr ⟨rfl, fun u hu => List.mem_singleton.mp hu ▸ hfirst⟩
  refine ⟨hfirst, (repeatable_iff hfirst).mpr fun items h => ?_, hsecond,
    fun h => ?_, ?_⟩
  · obtain ⟨w, hw, rfl | h⟩ := inside_iff.mp h
    · simp [parts] at hw
    · obtain ⟨u, hu, -⟩ := inside_iff.mp h
      rcases hw with _ | ⟨_, _ | ⟨_, hnone⟩⟩ <;> contradiction
  · cases (repeatable_iff hsecond).mp h _ (.part (List.mem_cons_self ..))
  · have hbefore : (list [stream [int 1, str ['b']]]).text .human
        = word "[[1, b]]" := by decide +kernel
    have hafter : (list [stream []]).text .human = word "[[]]" := by
      decide +kernel
    rw [← hbefore, ← hafter]
    rfl

end Value

end TildeFormat
