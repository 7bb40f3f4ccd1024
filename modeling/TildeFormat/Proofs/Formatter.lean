/-
A formatter answers as if it kept nothing. Every call goes through the
cache, which may serve a template that was compiled long before; reading
the text afresh for each call gives the same answers and leaves the same
streams.

What carries this is that a template is kept only under its own text and
with what reading that text gives: `Sound`. A call changes the cache only
by fetching its template, so one lemma about `compile` serves all three
kinds of call.

What the cache does change is which template is handed out. A template
comes back as long as its text stays kept, and never after it went: every
template made later has a greater number.
-/
import Mathlib.Logic.Function.Basic
import TildeFormat.Formatter
import TildeFormat.Proofs.Cache

namespace TildeFormat

/-- What a compiled template was read from, and what was read. -/
def Compiled.reading (template : Compiled) : Text × List Node :=
  (template.text, template.tree)

namespace Formatter

variable {reg : Registry} {formatter : Formatter} {text : Text}
  {template : Compiled}

-- ========================================================== one fetch

/-- What a formatter keeps is what its texts read as, made before now. -/
structure Sound (reg : Registry) (formatter : Formatter) : Prop where
  registry : formatter.registry = reg
  nodup : formatter.cache.keys.Nodup
  room : ∀ entry ∈ formatter.cache.entries, 0 < formatter.cache.maxsize
  read : ∀ entry ∈ formatter.cache.entries,
    entry.2.text = entry.1 ∧ parse reg entry.1 = .ok entry.2.tree
  made : ∀ entry ∈ formatter.cache.entries,
    entry.2.serial < formatter.compiled

/-- A template that is made is what its text reads as, under the number
that is next. -/
theorem make_ok {serial : Nat}
    (h : (make reg text serial).1 = .ok template) :
    template.text = text ∧ parse reg text = .ok template.tree
      ∧ template.serial = serial := by
  rw [make] at h
  cases hparse : parse reg text with
  | error e =>
      rw [hparse] at h
      cases h
  | ok tree =>
      rw [hparse] at h
      cases h
      exact ⟨rfl, rfl, rfl⟩

/-- Whether a template was kept or is made for the call, it is what its
text reads as. -/
theorem Sound.compile_result (h : formatter.Sound reg) (text : Text) :
    (formatter.compile text).result.map Compiled.reading
      = (parse reg text).map fun tree => (text, tree) := by
  have hmade : (make formatter.registry text formatter.compiled).1.map
      Compiled.reading = (parse reg text).map fun tree => (text, tree) := by
    rw [h.registry, make]
    cases parse reg text <;> rfl
  rw [compile]
  obtain ⟨-, heq⟩ | ⟨-, kept, hkept, heq⟩ | ⟨-, -, heq⟩ :=
    formatter.cache.getOrCreate_cases text
      (make formatter.registry text) formatter.compiled
  · rw [heq, hmade]
  · obtain ⟨htext, hparse⟩ := h.read _ hkept
    rw [heq, hparse, Except.map, Compiled.reading, htext, Except.map]
  · rw [heq, hmade]

/-- A template that is handed out was kept, or it is the newest of all. -/
theorem compile_ok (h : (formatter.compile text).result = .ok template) :
    (text, template) ∈ formatter.cache.entries
      ∨ template.serial = formatter.compiled
        ∧ (formatter.compile text).next.compiled
          = formatter.compiled + 1 := by
  rw [compile] at h ⊢
  obtain ⟨-, heq⟩ | ⟨-, kept, hkept, heq⟩ | ⟨-, -, heq⟩ :=
    formatter.cache.getOrCreate_cases text
      (make formatter.registry text) formatter.compiled
  · rw [heq] at h ⊢
    exact .inr ⟨(make_ok h).2.2, rfl⟩
  · rw [heq] at h
    cases h
    exact .inl hkept
  · rw [heq] at h ⊢
    exact .inr ⟨(make_ok h).2.2, rfl⟩

/-- Templates are only counted up. -/
theorem compiled_le_compile :
    formatter.compiled ≤ (formatter.compile text).next.compiled := by
  rw [compile]
  obtain ⟨-, heq⟩ | ⟨-, kept, -, heq⟩ | ⟨-, -, heq⟩ :=
    formatter.cache.getOrCreate_cases text
      (make formatter.registry text) formatter.compiled
  · rw [heq]
    exact Nat.le_succ _
  · rw [heq]
  · rw [heq]
    exact Nat.le_succ _

/-- A template that is handed out was compiled by then. -/
theorem Sound.serial_lt (h : formatter.Sound reg)
    (hresult : (formatter.compile text).result = .ok template) :
    template.serial < (formatter.compile text).next.compiled := by
  rcases compile_ok hresult with hkept | ⟨hserial, hnext⟩
  · exact Nat.lt_of_lt_of_le (h.made _ hkept) compiled_le_compile
  · rw [hserial, hnext]
    exact Nat.lt_succ_self _

/-- What is kept after a fetch was kept before it, or it is what the fetch
handed out. -/
theorem mem_entries_compile {entry : Text × Compiled}
    (h : entry ∈ (formatter.compile text).next.cache.entries) :
    entry ∈ formatter.cache.entries
      ∨ 0 < formatter.cache.maxsize ∧ text ∉ formatter.cache.keys
        ∧ entry.1 = text
        ∧ (make formatter.registry text formatter.compiled).1
          = .ok entry.2 :=
  Cache.mem_entries_getOrCreate h

/-- The room of a formatter does not change. -/
theorem maxsize_compile :
    (formatter.compile text).next.cache.maxsize
      = formatter.cache.maxsize :=
  Cache.maxsize_getOrCreate

/-- A fetch keeps a formatter sound. -/
theorem Sound.compile (h : formatter.Sound reg) (text : Text) :
    (formatter.compile text).next.Sound reg where
  registry := h.registry
  nodup := Cache.nodup_keys_getOrCreate h.nodup
  room := by
    intro entry hentry
    rw [maxsize_compile]
    rcases mem_entries_compile hentry with hold | ⟨hroom, -⟩
    · exact h.room entry hold
    · exact hroom
  read := by
    intro entry hentry
    rcases mem_entries_compile hentry with hold | ⟨-, -, hkey, hmade⟩
    · exact h.read entry hold
    · obtain ⟨htext, hparse, -⟩ := make_ok hmade
      rw [hkey, htext]
      exact ⟨rfl, h.registry ▸ hparse⟩
  made := by
    intro entry hentry
    rcases mem_entries_compile hentry with hold | ⟨hroom, -, rfl, -⟩
    · exact Nat.lt_of_lt_of_le (h.made entry hold) compiled_le_compile
    · exact h.serial_lt (Cache.result_getOrCreate_of_mem hroom hentry)

/-- A text that cannot be read has its error, kept or not. -/
theorem Sound.compile_of_error (h : formatter.Sound reg)
    {e : ParseError} (herror : parse reg text = .error e) :
    (formatter.compile text).result = .error e := by
  have hresult := h.compile_result text
  rw [herror] at hresult
  cases hfetched : (formatter.compile text).result with
  | ok template =>
      rw [hfetched] at hresult
      cases hresult
  | error e' =>
      rw [hfetched] at hresult
      cases hresult
      rfl

/-- A text that can be read has its tree. -/
theorem Sound.compile_of_ok (h : formatter.Sound reg)
    {tree : List Node} (hparse : parse reg text = .ok tree) :
    ∃ template, (formatter.compile text).result = .ok template
      ∧ template.tree = tree := by
  have hresult := h.compile_result text
  rw [hparse] at hresult
  cases hfetched : (formatter.compile text).result with
  | ok template =>
      rw [hfetched] at hresult
      exact ⟨template, rfl, congrArg Prod.snd (Except.ok.inj hresult)⟩
  | error e =>
      rw [hfetched] at hresult
      cases hresult

/-- A text that cannot be read leaves what is kept as it was. -/
theorem Sound.keys_compile_of_error (h : formatter.Sound reg)
    {e : ParseError} (herror : parse reg text = .error e) :
    (formatter.compile text).next.cache.keys = formatter.cache.keys :=
  congrArg (List.map Prod.fst)
    (Cache.entries_getOrCreate_of_error (h.compile_of_error herror))

-- ================================================ the same template

/-- A template that stays kept through a fetch is the one that was kept
before: only a text that is not kept gets a new one. -/
theorem Sound.stays (h : formatter.Sound reg) {other : Text}
    (hkept : (text, template) ∈ formatter.cache.entries)
    (hkeys : text ∈ (formatter.compile other).next.cache.keys) :
    (text, template)
      ∈ (formatter.compile other).next.cache.entries := by
  obtain ⟨entry, hentry, rfl⟩ := List.mem_map.mp hkeys
  rcases mem_entries_compile hentry with hold | ⟨-, hkey, heq, -⟩
  · have hsame := List.inj_on_of_nodup_map h.nodup hold hkept rfl
    rw [← hsame]
    exact hentry
  · exact absurd (heq ▸ Cache.mem_keys hkept) hkey

/-- A template that is kept is the one handed out. -/
theorem Sound.compile_of_mem (h : formatter.Sound reg)
    (hkept : (text, template) ∈ formatter.cache.entries) :
    (formatter.compile text).result = .ok template := by
  rw [Formatter.compile]
  obtain ⟨hroom, -⟩ | ⟨-, other, hother, heq⟩ | ⟨-, hkey, -⟩ :=
    formatter.cache.getOrCreate_cases text
      (make formatter.registry text) formatter.compiled
  · have := h.room _ hkept
    omega
  · have hsame := List.inj_on_of_nodup_map h.nodup hother hkept rfl
    rw [heq, (Prod.mk.inj hsame).2]
  · exact absurd (Cache.mem_keys hkept) hkey

/-- A text is kept with the template that was handed out for it. -/
theorem Sound.mem_entries_of_result (h : formatter.Sound reg)
    (hresult : (formatter.compile text).result = .ok template)
    (hkeys : text ∈ (formatter.compile text).next.cache.keys) :
    (text, template) ∈ (formatter.compile text).next.cache.entries := by
  obtain ⟨entry, hentry, rfl⟩ := List.mem_map.mp hkeys
  have hroom := (h.compile entry.1).room entry hentry
  rw [maxsize_compile] at hroom
  have hkept : (formatter.compile entry.1).result = .ok entry.2 :=
    Cache.result_getOrCreate_of_mem hroom hentry
  rw [hresult] at hkept
  cases hkept
  exact hentry

/-- A text that was not kept once some number of templates had been
compiled can only be answered by a later one. -/
structure Since (count : Nat) (text : Text) (formatter : Formatter) :
    Prop where
  kept : ∀ template, (text, template) ∈ formatter.cache.entries →
    count ≤ template.serial
  compiled : count ≤ formatter.compiled

/-- What is kept under a text since some time stays so with other fetches.
-/
theorem Since.compile {count : Nat} (h : formatter.Since count text)
    (other : Text) : (formatter.compile other).next.Since count text where
  kept := by
    intro template hentry
    rcases mem_entries_compile hentry with hold | ⟨-, -, -, hmade⟩
    · exact h.kept template hold
    · rw [(make_ok hmade).2.2]
      exact h.compiled
  compiled := Nat.le_trans h.compiled compiled_le_compile

/-- What is handed out for the text was made since then. -/
theorem Since.le_serial {count : Nat} (h : formatter.Since count text)
    (hresult : (formatter.compile text).result = .ok template) :
    count ≤ template.serial := by
  rcases compile_ok hresult with hkept | ⟨hserial, -⟩
  · exact h.kept template hkept
  · rw [hserial]
    exact h.compiled

-- ============================================= the three kinds of call

/-- A text is rendered as its tree is when it is read for the purpose. -/
def formatAfresh (reg : Registry) (text : Text) (arguments : List Value) :
    Except Failure Text :=
  match parse reg text with
  | .error e => .error (.parse e)
  | .ok tree => (render reg tree arguments).result

/-- Formatting through the cache is formatting afresh. -/
theorem Sound.format_result (h : formatter.Sound reg) (text : Text)
    (arguments : List Value) :
    (formatter.format text arguments).result
      = formatAfresh reg text arguments := by
  rw [format, formatAfresh]
  cases hparse : parse reg text with
  | error e => rw [h.compile_of_error hparse]
  | ok tree =>
      obtain ⟨template, hresult, htree⟩ := h.compile_of_ok hparse
      rw [hresult, h.registry, ← htree]

/-- A call leaves the formatter as its fetch does. -/
theorem format_next (arguments : List Value) :
    (formatter.format text arguments).next
      = (formatter.compile text).next := by
  rw [format]
  cases (formatter.compile text).result <;> rfl

theorem write_next (stream : Text) (arguments : List Value) :
    (formatter.write stream text arguments).next
      = (formatter.compile text).next := by
  rw [← format_next arguments, write]
  cases (formatter.format text arguments).result <;> rfl

end Formatter

-- ===================================================== calls in a row

/-- A formatter, and what was written to each stream so far. -/
structure Session where
  formatter : Formatter
  streams : Nat → Text

namespace Session

/-- What a formatter can be called for. -/
inductive Call where
  | compile (text : Text)
  | format (text : Text) (arguments : List Value)
  | write (stream : Nat) (text : Text) (arguments : List Value)

/-- The template of a call. -/
def Call.text : Call → Text
  | compile text => text
  | format text _ => text
  | write _ text _ => text

/-- What a call answers. -/
inductive Answer (τ : Type) where
  | template (result : Except ParseError τ)
  | text (result : Except Failure Text)
  | written (result : Except Failure Unit)

/-- The answer with another view of a template. -/
def Answer.map {τ υ : Type} (view : τ → υ) : Answer τ → Answer υ
  | template result => .template (result.map view)
  | text result => .text result
  | written result => .written result

/-- What a call answers and leaves in the streams when its template is
read for it alone: a stream grows by the text, or not at all. -/
def Call.afresh (reg : Registry) (streams : Nat → Text) :
    Call → Answer (Text × List Node) × (Nat → Text)
  | compile text =>
    (.template ((parse reg text).map fun tree => (text, tree)), streams)
  | format text arguments =>
    (.text (Formatter.formatAfresh reg text arguments), streams)
  | write stream text arguments =>
    match Formatter.formatAfresh reg text arguments with
    | .error e => (.written (.error e), streams)
    | .ok t =>
      (.written (.ok ()),
        Function.update streams stream (streams stream ++ t))

variable {reg : Registry} {session : Session} {text : Text}
  {template : Compiled}

/-- A formatter that keeps nothing yet, with room for some templates. -/
def start (reg : Registry) (size : Int) (streams : Nat → Text) :
    Session where
  formatter := { registry := reg, cache := { maxsize := size } }
  streams := streams

/-- The answer to a call, and what the call leaves. -/
def step (session : Session) : Call → Answer Compiled × Session
  | .compile text =>
    let reply := session.formatter.compile text
    (.template reply.result, { session with formatter := reply.next })
  | .format text arguments =>
    let reply := session.formatter.format text arguments
    (.text reply.result, { session with formatter := reply.next })
  | .write stream text arguments =>
    let reply := session.formatter.write (session.streams stream) text
      arguments
    (.written reply.result.1, {
      formatter := reply.next
      streams := Function.update session.streams stream reply.result.2 })

/-- What several calls leave. -/
def run (session : Session) (calls : List Call) : Session :=
  calls.foldl (fun session call => (session.step call).2) session

theorem run_append (calls more : List Call) :
    session.run (calls ++ more) = (session.run calls).run more :=
  List.foldl_append

/-- A call changes the formatter by fetching its template. -/
theorem formatter_step (call : Call) :
    (session.step call).2.formatter
      = (session.formatter.compile call.text).next := by
  cases call with
  | compile text => rfl
  | format text arguments => exact Formatter.format_next arguments
  | write stream text arguments => exact Formatter.write_next _ arguments

/-- At the start nothing is kept that could be wrong. -/
theorem sound_start (size : Int) (streams : Nat → Text) :
    (start reg size streams).formatter.Sound reg where
  registry := rfl
  nodup := List.nodup_nil
  room := List.forall_mem_nil _
  read := List.forall_mem_nil _
  made := List.forall_mem_nil _

/-- What every fetch keeps true of a formatter, several calls do. -/
theorem run_keeps {P : Formatter → Prop}
    (hcompile : ∀ formatter text, P formatter →
      P (formatter.compile text).next)
    (h : P session.formatter) (calls : List Call) :
    P (session.run calls).formatter := by
  induction calls generalizing session with
  | nil => exact h
  | cons call calls ih =>
      apply ih
      rw [formatter_step]
      exact hcompile _ _ h

/-- A formatter stays sound through every sequence of calls. -/
theorem sound_run (h : session.formatter.Sound reg) (calls : List Call) :
    (session.run calls).formatter.Sound reg :=
  run_keeps (fun _ text hsound => hsound.compile text) h calls

/-- A call is answered as if its template were read for it alone. -/
theorem step_afresh (h : session.formatter.Sound reg) (call : Call) :
    ((session.step call).1.map Compiled.reading,
        (session.step call).2.streams)
      = call.afresh reg session.streams := by
  cases call with
  | compile text =>
      rw [step, Answer.map, h.compile_result, Call.afresh]
  | format text arguments =>
      rw [step, Answer.map, h.format_result, Call.afresh]
  | write stream text arguments =>
      have hformat := h.format_result text arguments
      rw [step, Call.afresh, ← hformat, Formatter.write]
      cases (session.formatter.format text arguments).result with
      | ok t => rfl
      | error e =>
          rw [Answer.map, Function.update_eq_self]

/-- A template that stays kept through several calls is still the same
after them. -/
theorem stays_run (h : session.formatter.Sound reg)
    (hkept : (text, template) ∈ session.formatter.cache.entries)
    (calls : List Call)
    (hkeys : ∀ before, before <+: calls →
      text ∈ (session.run before).formatter.cache.keys) :
    (text, template) ∈ (session.run calls).formatter.cache.entries := by
  induction calls generalizing session with
  | nil => exact hkept
  | cons call calls ih =>
      have hnext := hkeys [call] (by simp)
      apply ih
      · rw [formatter_step]
        exact h.compile call.text
      · rw [formatter_step]
        apply h.stays hkept
        rw [← formatter_step]
        exact hnext
      · intro before hprefix
        exact hkeys (call :: before) (by simpa using hprefix)

/-- And what is kept since some time stays so. -/
theorem since_run {count : Nat}
    (h : session.formatter.Since count text) (calls : List Call) :
    (session.run calls).formatter.Since count text :=
  run_keeps (fun _ other hsince => hsince.compile other) h calls

/-- And templates are only counted up. -/
theorem compiled_le_run (calls : List Call) :
    session.formatter.compiled
      ≤ (session.run calls).formatter.compiled :=
  run_keeps (P := fun formatter =>
      session.formatter.compiled ≤ formatter.compiled)
    (fun _ _ hle => Nat.le_trans hle Formatter.compiled_le_compile)
    (Nat.le_refl _) calls

/-- A template that was handed out comes back exactly as long as its text
stays kept. -/
theorem same_template_iff (h : session.formatter.Sound reg)
    (hresult : (session.formatter.compile text).result = .ok template)
    (more : List Call) :
    let next := (session.step (.compile text)).2
    ((next.run more).formatter.compile text).result = .ok template
      ↔ ∀ before, before <+: more →
        text ∈ (next.run before).formatter.cache.keys := by
  intro next
  have hsound : next.formatter.Sound reg := h.compile text
  constructor
  · intro hsame before hprefix
    obtain ⟨rest, rfl⟩ := hprefix
    by_contra hgone
    -- from where the text is gone on, only greater numbers answer for it
    have hsince : (next.run before).formatter.Since
        (next.run before).formatter.compiled text :=
      ⟨fun _ hkept => absurd (Cache.mem_keys hkept) hgone, Nat.le_refl _⟩
    rw [run_append] at hsame
    have hlater := (since_run hsince rest).le_serial hsame
    have hfirst : template.serial < next.formatter.compiled :=
      h.serial_lt hresult
    have hgrown : next.formatter.compiled
        ≤ (next.run before).formatter.compiled := compiled_le_run before
    omega
  · intro hkeys
    have hkept : (text, template) ∈ next.formatter.cache.entries :=
      h.mem_entries_of_result hresult (hkeys [] List.nil_prefix)
    exact (sound_run hsound more).compile_of_mem
      (stays_run hsound hkept more hkeys)

/-- Keeping templates cannot be told from reading each afresh, but for
which template is handed out. After any calls, the next one answers what
its template gives when it is read for it alone, and leaves the same
streams; when the text cannot be read, the kept texts stay as they were.
A template that is handed out comes back after more calls exactly when its
text stayed kept all the while. -/
theorem run_transparent (reg : Registry) (size : Int)
    (streams : Nat → Text) (calls : List Call) :
    let session := (start reg size streams).run calls
    (∀ call, ((session.step call).1.map Compiled.reading,
        (session.step call).2.streams)
      = call.afresh reg session.streams)
    ∧ (∀ call e, parse reg call.text = .error e →
      (session.step call).2.formatter.cache.keys
        = session.formatter.cache.keys)
    ∧ ∀ text template more,
      let next := (session.step (.compile text)).2
      (session.step (.compile text)).1 = .template (.ok template) →
        (((next.run more).step (.compile text)).1
            = .template (.ok template)
          ↔ ∀ before, before <+: more →
            text ∈ (next.run before).formatter.cache.keys) := by
  intro session
  have h : session.formatter.Sound reg :=
    sound_run (sound_start size streams) calls
  refine ⟨step_afresh h, ?_, ?_⟩
  · intro call e herror
    rw [formatter_step]
    exact h.keys_compile_of_error herror
  · intro text template more next hanswer
    have hiff :=
      same_template_iff h (Answer.template.inj hanswer) more
    exact Iff.trans ⟨Answer.template.inj, congrArg Answer.template⟩ hiff

/-- Room for one template, and `a` written to a stream. -/
def narrow : Session :=
  (start .standard 1 fun _ => []).run [.write 0 ['a'] []]

/-- The template of that call. -/
def firstTemplate : Compiled := ⟨['a'], [.literal ['a'] 0], 0⟩

/-- A template that cannot be read does not push `a` out, so it comes back
the same; any other one does. -/
theorem run_transparent_narrow :
    parse .standard ['~'] = .error ⟨.endsInDirective, 0⟩
      ∧ (narrow.step (.compile ['~'])).2.formatter.cache.keys
        = narrow.formatter.cache.keys
      ∧ (narrow.step (.compile ['a'])).1 = .template (.ok firstTemplate)
      ∧ (((narrow.step (.compile ['a'])).2.run
          [.compile ['~']]).step (.compile ['a'])).1
        = .template (.ok firstTemplate)
      ∧ (((narrow.step (.compile ['a'])).2.run
          [.compile ['b']]).step (.compile ['a'])).1
        ≠ .template (.ok firstTemplate) := by
  obtain ⟨-, hkeys, hsame⟩ := run_transparent .standard 1 (fun _ => [])
    [.write 0 ['a'] []]
  have herror : parse .standard ['~'] = .error ⟨.endsInDirective, 0⟩ := by
    with_unfolding_all rfl
  have hfirst : (narrow.step (.compile ['a'])).1
      = .template (.ok firstTemplate) := by
    with_unfolding_all rfl
  have hkept : ∀ calls, calls = [] ∨ calls = [.compile ['~']] →
      ((narrow.step (.compile ['a'])).2.run calls).formatter.cache.keys
        = [[.scalar 'a']] := by
    rintro calls (rfl | rfl) <;> with_unfolding_all rfl
  have hgone : ((narrow.step (.compile ['a'])).2.run
      [.compile ['b']]).formatter.cache.keys = [[.scalar 'b']] := by
    with_unfolding_all rfl
  refine ⟨herror, hkeys (.compile ['~']) _ herror, hfirst, ?_, ?_⟩
  · apply (hsame ['a'] firstTemplate [.compile ['~']] hfirst).mpr
    intro before hprefix
    have hshort : before = [] ∨ before = [.compile ['~']] := by
      rcases List.prefix_cons_iff.mp hprefix with rfl | ⟨rest, rfl, hrest⟩
      · exact .inl rfl
      · rw [List.prefix_nil.mp hrest]
        exact .inr rfl
    exact hkept before hshort ▸ List.mem_cons_self
  · intro hback
    have hmem := (hsame ['a'] firstTemplate [.compile ['b']] hfirst).mp
      hback [.compile ['b']] (List.prefix_refl _)
    exact absurd (hgone ▸ hmem) (by decide)

end Session

end TildeFormat
