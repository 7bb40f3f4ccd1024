/-
The machine form of a plain value is read back: a reader is given, and it
recovers every value that is put together from the nothing, truth values,
integers and texts by lists and maps.

The reader goes down the form as it is written. Only an integer does not
show where it ends, so the form of a value is read the same whatever stands
behind it, as long as that is no digit; and what stands behind the parts of
a container is a comma, a colon or a bracket. The reader may go as deep as
its text is long, which is deeper than any text can nest.
-/
import TildeFormat.Value.Form
import TildeFormat.Proofs.Numeral
import TildeFormat.Proofs.Text.Quoted
import TildeFormat.Proofs.Text.Run

namespace TildeFormat

-- =============================================================== joining

theorem Text.join_cons_cons (separator s t : Text) (ts : List Text) :
    Text.join separator (s :: t :: ts)
      = s ++ separator ++ Text.join separator (t :: ts) :=
  rfl

/-- What is joined is no shorter than any of its texts, and there is at
least one character for every text but one. -/
theorem Text.length_join {separator : Text} (h : separator ≠ [])
    (ts : List Text) :
    (∀ t ∈ ts, t.length ≤ (Text.join separator ts).length)
      ∧ ts.length ≤ (Text.join separator ts).length + 1 := by
  induction ts with
  | nil => exact ⟨fun t ht => absurd ht List.not_mem_nil, Nat.zero_le _⟩
  | cons s ts ih =>
      have hone := List.length_pos_iff.mpr h
      cases ts with
      | nil =>
          refine ⟨fun t ht => ?_, Nat.le_add_left _ _⟩
          exact Nat.le_of_eq (congrArg _ (List.mem_singleton.mp ht))
      | cons r ts =>
          rw [Text.join_cons_cons, List.length_append, List.length_append]
          refine ⟨fun t ht => ?_, ?_⟩
          · rcases List.mem_cons.mp ht with rfl | hrest
            · omega
            · have := ih.1 t hrest
              omega
          · have := ih.2
            rw [List.length_cons]
            omega

/-- A container is longer than its parts, and than there are of them. -/
theorem length_bracketed (left right : Character) (parts : List Text) :
    (∀ t ∈ parts, t.length + 2 ≤ (bracketed left right parts).length)
      ∧ parts.length < (bracketed left right parts).length := by
  obtain ⟨hparts, hcount⟩ :=
    @Text.length_join [',', ' '] (List.cons_ne_nil _ _) parts
  rw [bracketed, List.length_cons, List.length_append,
    List.length_singleton]
  refine ⟨fun t ht => ?_, by omega⟩
  have := hparts t ht
  omega

namespace Value

theorem texts_eq_map (form : Form) (items : List Value) :
    texts form items = items.map (text form) := by
  induction items with
  | nil => rfl
  | cons v rest ih => rw [texts, ih, List.map_cons]

theorem entryTexts_eq_map (form : Form) (entries : List (Value × Value)) :
    entryTexts form entries
      = entries.map fun e => entryText (text form e.1) (text form e.2) := by
  induction entries with
  | nil => rfl
  | cons e rest ih => rw [entryTexts, ih, List.map_cons]

-- =========================================================== plain values

/-- What a key of a plain map can be. -/
inductive Atomic : Value → Prop where
  | nothing : Atomic nothing
  | truth (b : Bool) : Atomic (truth b)
  | int (n : Int) : Atomic (int n)
  | str (t : Text) : Atomic (str t)

/-- Values put together from atomic ones by lists and maps. -/
inductive Plain : Value → Prop where
  | atomic {v : Value} (h : v.Atomic) : Plain v
  | list {items : List Value} (h : ∀ v ∈ items, Plain v) :
    Plain (list items)
  | map {entries : List (Value × Value)}
    (hkeys : ∀ e ∈ entries, e.1.Atomic) (h : ∀ e ∈ entries, Plain e.2) :
    Plain (map entries)

-- ================================================================ reader

/-- A number in front of a text, and what is behind it. -/
def number? (t : Text) : Option (Nat × Text) :=
  let ds := t.takeWhile Character.isDigit
  if ds = [] then none
  else some (Numeral.value ds, t.dropWhile Character.isDigit)

/-- A named value in front of a text, and what is behind it. -/
def named? : Text → Option (Value × Text)
  | 'N' :: 'o' :: 'n' :: 'e' :: rest => some (nothing, rest)
  | 'T' :: 'r' :: 'u' :: 'e' :: rest => some (truth true, rest)
  | 'F' :: 'a' :: 'l' :: 's' :: 'e' :: rest => some (truth false, rest)
  | _ => none

section

variable {α : Type}

/-- Parts with a comma and a space between them, at most as many as given,
up to a closing bracket. -/
def parts? (close : Character) (part : Text → Option (α × Text)) :
    Nat → Text → Option (List α × Text)
  | 0, _ => none
  | count + 1, t =>
    match part t with
    | some (a, c :: rest) =>
      if c = close then some ([a], rest)
      else
        match c :: rest with
        | ',' :: ' ' :: rest =>
          (parts? close part count rest).map (Prod.map (a :: ·) id)
        | _ => none
    | _ => none

/-- What is between brackets, from behind the opening one. -/
def bracketed? (close : Character) (part : Text → Option (α × Text))
    (count : Nat) : Text → Option (List α × Text)
  | [] => none
  | c :: rest =>
    if c = close then some ([], rest) else parts? close part count (c :: rest)

end

/-- A key, a colon and a value. -/
def keyed? (part : Text → Option (Value × Text)) (t : Text) :
    Option ((Value × Value) × Text) :=
  match part t with
  | some (key, ':' :: ' ' :: rest) => (part rest).map (Prod.map (key, ·) id)
  | _ => none

/-- A value in front of a text, nested at most as deep as given, and what is
behind it. -/
def value? : Nat → Text → Option (Value × Text)
  | depth + 1, c :: rest =>
    if c.isDigit then
      (number? (c :: rest)).map (Prod.map (fun n : Nat => int n) id)
    else if c = '-' then
      (number? rest).map (Prod.map (fun n : Nat => int (-n)) id)
    else if c = '"' then (Text.quoted? rest).map (Prod.map str id)
    else if c = '[' then
      (bracketed? ']' (value? depth) depth rest).map (Prod.map list id)
    else if c = '\x7b' then
      (bracketed? '\x7d' (keyed? (value? depth)) depth rest).map
        (Prod.map map id)
    else named? (c :: rest)
  | _, _ => none

/-- The value that a text is the machine form of. -/
def ofText? (t : Text) : Option Value :=
  match value? (t.length + 1) t with
  | some (v, []) => some v
  | _ => none

-- =========================================================== atomic values

theorem number?_digits (n : Nat) {rest : Text}
    (hrest : Stops Character.isDigit rest) :
    number? (Numeral.digits n ++ rest) = some (n, rest) := by
  have hdigits := fun c => @Numeral.isDigit_of_mem_digits n c
  unfold number?
  simp only [takeWhile_append_stops hdigits hrest,
    dropWhile_append_stops hdigits hrest]
  rw [if_neg (Numeral.digits_ne_nil n), Numeral.value_digits]

/-- Integers, of which only what stands behind tells the end. -/
theorem value?_integer (n : Int) (depth : Nat) {rest : Text}
    (hrest : Stops Character.isDigit rest) :
    value? (depth + 1) (Numeral.integer n ++ rest)
      = some (int n, rest) := by
  have hread := number?_digits n.natAbs hrest
  unfold Numeral.integer
  split
  · next hbelow =>
    rw [List.cons_append, value?, if_neg (by decide), if_pos rfl, hread]
    show some (int (-(n.natAbs : Int)), rest) = _
    rw [Int.ofNat_natAbs_of_nonpos (by omega), Int.neg_neg]
  · next hnot =>
    have hdigits := fun c => @Numeral.isDigit_of_mem_digits n.natAbs c
    cases hds : Numeral.digits n.natAbs with
    | nil => exact absurd hds (Numeral.digits_ne_nil _)
    | cons c ds =>
        rw [hds] at hread hdigits
        rw [List.cons_append, value?,
          if_pos (hdigits c (List.mem_cons_self ..)), ← List.cons_append,
          hread]
        show some (int (n.natAbs : Int), rest) = _
        rw [Int.natAbs_of_nonneg (by omega)]

/-- Atomic values, at any depth. -/
theorem value?_atomic {v : Value} (h : v.Atomic) (depth : Nat)
    {rest : Text} (hrest : Stops Character.isDigit rest) :
    value? (depth + 1) (v.text .machine ++ rest) = some (v, rest) := by
  cases h with
  | nothing => rfl
  | truth b => cases b <;> rfl
  | int n => exact value?_integer n depth hrest
  | str t =>
      show (Text.quoted? (t.escape ++ [.scalar '"'] ++ rest)).map _ = _
      rw [List.append_assoc, List.singleton_append, Text.quoted?_escape]
      rfl

-- ============================================================== containers

section

variable {α : Type} {close : Character} {part : Text → Option (α × Text)}
  {text : α → Text} {as : List α} {count : Nat} {rest : Text}

/-- Parts that are read each by itself are read together. -/
theorem parts?_join (hdigit : close.isDigit = false) (hcomma : close ≠ ',')
    (hpart : ∀ a ∈ as, ∀ rest, Stops Character.isDigit rest →
      part (text a ++ rest) = some (a, rest))
    (hcount : as.length ≤ count) (hnil : as ≠ []) :
    parts? close part count
        (Text.join [',', ' '] (as.map text) ++ close :: rest)
      = some (as, rest) := by
  induction as generalizing count with
  | nil => exact absurd rfl hnil
  | cons a as ih =>
      obtain ⟨count, rfl⟩ : ∃ n, count = n + 1 :=
        ⟨count - 1, by rw [List.length_cons] at hcount; omega⟩
      have hfirst := hpart a (List.mem_cons_self ..)
      cases as with
      | nil =>
          show parts? close part (count + 1) (text a ++ close :: rest) = _
          rw [parts?, hfirst _ (stops_cons hdigit rest)]
          exact if_pos rfl
      | cons b as =>
          have hothers := ih (fun c hc => hpart c (List.mem_cons_of_mem _ hc))
            (Nat.le_of_succ_le_succ hcount) (List.cons_ne_nil _ _)
          rw [List.map_cons, List.map_cons, Text.join_cons_cons,
            ← List.map_cons, List.append_assoc, List.append_assoc, parts?,
            hfirst (([',', ' '] : Text) ++ _) (stops_cons (by decide) _)]
          show (if .scalar ',' = close then _
            else Option.map _ (parts? close part
            count (Text.join [',', ' '] ((b :: as).map text)
              ++ close :: rest))) = _
          rw [if_neg (Ne.symm hcomma), hothers]
          rfl

/-- What is between brackets is read, when no part starts with the closing
one; there may be as many parts as the whole is long. -/
theorem bracketed?_bracketed {left : Character}
    (hdigit : close.isDigit = false)
    (hcomma : close ≠ ',') (hclose : ∀ rest, part (close :: rest) = none)
    (hcount : (bracketed left close (as.map text)).length ≤ count)
    (hpart : ∀ a ∈ as, (text a).length + 2 ≤ count → ∀ rest,
      Stops Character.isDigit rest → part (text a ++ rest) = some (a, rest)) :
    bracketed? close part count
        (Text.join [',', ' '] (as.map text) ++ [close] ++ rest)
      = some (as, rest) := by
  obtain ⟨hlength, hparts⟩ := length_bracketed left close (as.map text)
  rw [List.length_map] at hparts
  rw [List.append_assoc, List.singleton_append]
  by_cases hnil : as = []
  · subst hnil
    exact if_pos rfl
  · have hread : parts? close part count
          (Text.join [',', ' '] (as.map text) ++ close :: rest)
        = some (as, rest) :=
      parts?_join hdigit hcomma
        (fun a ha => hpart a ha
          (Nat.le_trans (hlength _ (List.mem_map_of_mem ha)) hcount))
        (by omega) hnil
    obtain ⟨c, t, ht⟩ := List.exists_cons_of_ne_nil
      (List.append_ne_nil_of_right_ne_nil
        (Text.join [',', ' '] (as.map text)) (List.cons_ne_nil close rest))
    rw [ht] at hread ⊢
    rw [bracketed?, if_neg, hread]
    -- a closing bracket at the start would be no part
    rintro rfl
    cases count with
    | zero => cases hread
    | succ count =>
        rw [parts?, hclose] at hread
        cases hread

end

/-- No value starts with a closing bracket. -/
theorem value?_close (depth : Nat) (rest : Text) :
    value? depth (']' :: rest) = none
      ∧ value? depth ('\x7d' :: rest) = none := by
  cases depth <;> exact ⟨rfl, rfl⟩

theorem keyed?_of_none {part : Text → Option (Value × Text)} {t : Text}
    (h : part t = none) : keyed? part t = none := by
  rw [keyed?, h]

/-- The form of an entry is read when those of its key and its value are. -/
theorem keyed?_text {part : Text → Option (Value × Text)}
    {e : Value × Value} {rest : Text}
    (hkey : ∀ rest, Stops Character.isDigit rest →
      part (e.1.text .machine ++ rest) = some (e.1, rest))
    (hvalue : part (e.2.text .machine ++ rest) = some (e.2, rest)) :
    keyed? part (entryText (e.1.text .machine) (e.2.text .machine) ++ rest)
      = some (e, rest) := by
  rw [entryText, List.append_assoc, List.cons_append, List.cons_append,
    keyed?, hkey _ (stops_cons (by decide) _)]
  show (part (e.2.text .machine ++ rest)).map _ = _
  rw [hvalue]
  rfl

-- ================================================================= values

/-- The form of a plain value is read, whatever stands behind it that does
not go on with a number. -/
theorem value?_text {v : Value} (h : v.Plain) {depth : Nat}
    (hdepth : (v.text .machine).length < depth) {rest : Text}
    (hrest : Stops Character.isDigit rest) :
    value? depth (v.text .machine ++ rest) = some (v, rest) := by
  induction h generalizing depth rest with
  | atomic h =>
      obtain ⟨depth, rfl⟩ : ∃ d, depth = d + 1 := ⟨depth - 1, by omega⟩
      exact value?_atomic h depth hrest
  | @list items h ih =>
      obtain ⟨depth, rfl⟩ : ∃ d, depth = d + 1 := ⟨depth - 1, by omega⟩
      rw [text, texts_eq_map] at hdepth ⊢
      rw [bracketed, List.cons_append]
      show (bracketed? ']' (value? depth) depth
        (_ ++ [.scalar ']'] ++ rest)).map _
        = _
      rw [bracketed?_bracketed (by decide) (by decide)
        (fun rest => (value?_close depth rest).1) (Nat.le_of_lt_succ hdepth)
        fun v hv hlength rest hrest => ih v hv (by omega) hrest]
      rfl
  | @map entries hkeys h ih =>
      obtain ⟨depth, rfl⟩ : ∃ d, depth = d + 1 := ⟨depth - 1, by omega⟩
      rw [text, entryTexts_eq_map] at hdepth ⊢
      rw [bracketed, List.cons_append]
      show (bracketed? '\x7d' (keyed? (value? depth)) depth
        (_ ++ [.scalar '\x7d'] ++ rest)).map _ = _
      rw [bracketed?_bracketed (by decide) (by decide)
        (fun rest => keyed?_of_none (value?_close depth rest).2)
        (Nat.le_of_lt_succ hdepth) fun e he hlength rest hrest => ?_]
      · rfl
      · rw [entryText, List.length_append, List.length_cons,
          List.length_cons] at hlength
        refine keyed?_text (fun rest hrest => ?_) (ih e he (by omega) hrest)
        obtain ⟨depth, rfl⟩ : ∃ d, depth = d + 1 :=
          ⟨depth - 1, by omega⟩
        exact value?_atomic (hkeys e he) depth hrest

/-- A plain value is read from its machine form. -/
theorem ofText?_text {v : Value} (h : v.Plain) :
    ofText? (v.text .machine) = some v := by
  have hread := value?_text h (Nat.lt_succ_self _) (stops_nil _)
  rw [List.append_nil] at hread
  rw [ofText?, hread]

/-- A plain value is recovered from its machine form by a reader, and no
other one has the same form. In the form of a text the closing quote is the
first behind the opening one that is not escaped. -/
theorem machineText_readable {v : Value} (h : v.Plain) (t : Text) :
    ofText? (v.text .machine) = some v
      ∧ (∀ w : Value, w.Plain → w.text .machine = v.text .machine → w = v)
      ∧ ∃ body, (str t).text .machine = .scalar '"' :: (body ++ [.scalar '"'])
        ∧ ∀ front back, body ++ [.scalar '"'] = front ++ .scalar '"' :: back →
          (Text.escapes front = false ↔ back = []) := by
  refine ⟨ofText?_text h, fun w hw hsame => ?_, t.escape, rfl,
    fun front back hquote => Text.escapes_eq_false_iff hquote⟩
  have hread := ofText?_text hw
  rw [hsame, ofText?_text h] at hread
  exact (Option.some.inj hread).symm

/-- A map from a quote to a list of an integer and a text that ends in a
backslash. -/
theorem machineText_readable_marks :
    Plain (map [(str ['"'], list [int (-12), str [']', '\\']])])
      ∧ (map [(str ['"'], list [int (-12), str [']', '\\']])]).text .machine
        = word "\x7b\"\\\"\": [-12, \"]\\\\\"]\x7d"
      ∧ ofText? ((map [(str ['"'],
          list [int (-12), str [']', '\\']])]).text .machine)
        = some (map [(str ['"'], list [int (-12), str [']', '\\']])])
      ∧ (∀ w : Value, w.Plain → w.text .machine
          = (map [(str ['"'], list [int (-12), str [']', '\\']])]).text
            .machine →
          w = map [(str ['"'], list [int (-12), str [']', '\\']])])
      ∧ ∃ body, (str ['\\', '"']).text .machine
        = .scalar '"' :: (body ++ [.scalar '"'])
        ∧ ∀ front back, body ++ [.scalar '"'] = front ++ .scalar '"' :: back →
          (Text.escapes front = false ↔ back = []) := by
  have hitems : Plain (list [int (-12), str [']', '\\']]) :=
    .list fun v hv => by
      rcases hv with _ | ⟨_, _ | ⟨_, hnone⟩⟩
      · exact .atomic (.int _)
      · exact .atomic (.str _)
      · cases hnone
  have hplain : Plain
      (map [(str ['"'], list [int (-12), str [']', '\\']])]) :=
    .map (fun e he => List.mem_singleton.mp he ▸ .str _)
      fun e he => List.mem_singleton.mp he ▸ hitems
  exact ⟨hplain, by decide +kernel,
    machineText_readable hplain ['\\', '"']⟩

end Value

end TildeFormat
