/-
The cache keeps what was used last. The history of a cache is the fetches
since it was last cleared, with what each of them came to, and the values
that were made for them. The texts it keeps are told from the history
alone: of the texts whose fetch gave a value, each counted where it was
last used, the newest ones, as many as there is room for.

A fetch that gives a value brings its text to the end and cuts the texts
in front down to the room, whether the text was kept or not:
`keys_getOrCreate`. The same happens to the newest texts of the history:
`newest_concat`. So the two stay equal. A fetch that gives no value leaves
no text behind in either.

A value is made by a call of the function that comes with the fetch, and
the calls are noted as they happen, so a history also tells how many there
were.
-/
import Mathlib.Data.List.Dedup
import Mathlib.Data.List.DropRight
import TildeFormat.Cache

namespace TildeFormat

-- ================================================ the newest of a list

section

variable {α : Type} [BEq α] [LawfulBEq α]

/-- The last few of two lists are of the second where it has enough. -/
theorem rtake_append_of_le {β : Type} (l : List β) {m : List β} {n : Nat}
    (h : n ≤ m.length) : (l ++ m).rtake n = m.rtake n := by
  rw [List.rtake, List.length_append, Nat.add_sub_assoc h,
    List.drop_length_add_append, List.rtake]

theorem rtake_of_length_le {β : Type} {l : List β} {n : Nat}
    (h : l.length ≤ n) : l.rtake n = l := by
  rw [List.rtake, Nat.sub_eq_zero_of_le h, List.drop_zero]

theorem length_rtake_le {β : Type} (l : List β) (n : Nat) :
    (l.rtake n).length ≤ n := by
  rw [List.rtake, List.length_drop]
  omega

/-- To know the last `n` elements without one that may be among them, the
last `n + 1` are enough. -/
theorem rtake_filter_ne {l : List α} (h : l.Nodup) (a : α) (n : Nat) :
    ((l.rtake (n + 1)).filter (· != a)).rtake n
      = (l.filter (· != a)).rtake n := by
  by_cases hshort : l.length ≤ n + 1
  · rw [rtake_of_length_le hshort]
  · have hnodup : (l.rtake (n + 1)).Nodup :=
      h.sublist (List.drop_sublist _ _)
    -- `a` occurs at most once among these `n + 1`, so `n` are left
    have hleft : n ≤ ((l.rtake (n + 1)).filter (· != a)).length := by
      have hlength : (l.rtake (n + 1)).length = n + 1 := by
        rw [List.rtake, List.length_drop]
        omega
      have herased := List.le_length_erase (l := l.rtake (n + 1)) (a := a)
      rw [← hnodup.erase_eq_filter]
      omega
    have hsplit : l.take (l.length - (n + 1)) ++ l.rtake (n + 1) = l :=
      List.take_append_drop _ l
    rw [← rtake_append_of_le
        ((l.take (l.length - (n + 1))).filter (· != a)) hleft,
      ← List.filter_append, hsplit]

variable [DecidableEq α]

/-- The last `n` of the elements, each where it stands last. -/
def newest (n : Nat) (l : List α) : List α := l.dedup.rtake n

/-- An element that is used once more stands at the end alone. -/
theorem dedup_concat (l : List α) (a : α) :
    (l ++ [a]).dedup = l.dedup.filter (· != a) ++ [a] := by
  induction l with
  | nil => rfl
  | cons b l ih =>
      rw [List.cons_append]
      by_cases hmem : b ∈ l
      · rw [List.dedup_cons_of_mem (List.mem_append_left _ hmem), ih,
          List.dedup_cons_of_mem hmem]
      · rw [List.dedup_cons_of_notMem hmem]
        by_cases hab : b = a
        · subst hab
          rw [List.dedup_cons_of_mem (by simp), ih]
          simp
        · rw [List.dedup_cons_of_notMem (by simp [hmem, hab]), ih]
          simp [hab]

/-- What a use does to the newest elements. -/
theorem newest_concat (n : Nat) (l : List α) (a : α) :
    newest (n + 1) (l ++ [a])
      = ((newest (n + 1) l).filter (· != a)).rtake n ++ [a] := by
  rw [newest, dedup_concat, List.rtake_concat_succ, newest,
    rtake_filter_ne l.nodup_dedup]

end

-- ==================================================== one use of a cache

namespace Cache

section

variable {σ ε α : Type} {cache : Cache α} {key : Text} {value : α}
  {make : σ → Except ε α × σ} {state : σ}

theorem mem_keys (h : (key, value) ∈ cache.entries) :
    key ∈ cache.keys := List.mem_map_of_mem h

/-- A key is not found exactly when it is not kept. -/
theorem get?_eq_none_iff : cache.get? key = none ↔ key ∉ cache.keys := by
  rw [get?, List.lookup_eq_none_iff]
  constructor
  · intro h hmem
    obtain ⟨entry, hentry, rfl⟩ := List.mem_map.mp hmem
    simpa using h entry hentry
  · intro h entry hentry
    rw [bne_iff_ne]
    rintro rfl
    exact h (mem_keys hentry)

/-- What is found is kept under the key. -/
theorem mem_entries_of_get? (h : cache.get? key = some value) :
    (key, value) ∈ cache.entries := by
  obtain ⟨before, after, heq, -⟩ := List.lookup_eq_some_iff.mp h
  rw [heq]
  exact List.mem_append_right _ List.mem_cons_self

/-- Something is found for each key that is kept. -/
theorem exists_get?_of_mem_keys (h : key ∈ cache.keys) :
    ∃ value, cache.get? key = some value := by
  cases hget : cache.get? key with
  | none => exact absurd h (get?_eq_none_iff.mp hget)
  | some value => exact ⟨value, rfl⟩

/-- With room for none, a value is made and nothing is kept. -/
theorem getOrCreate_of_no_room (h : cache.maxsize ≤ 0) :
    cache.getOrCreate key make state
      = ⟨(make state).1, cache, (make state).2⟩ := by
  rw [getOrCreate, if_pos h]

/-- A value that is kept is handed out and made the newest; nothing is
made. -/
theorem getOrCreate_of_kept (hroom : 0 < cache.maxsize)
    (h : cache.get? key = some value) :
    cache.getOrCreate key make state
      = ⟨.ok value, cache.touch key value, state⟩ := by
  rw [getOrCreate, if_neg (by omega), h]

/-- The cache after an attempt to make a value that was not there. -/
def afterMaking (cache : Cache α) (key : Text) :
    Except ε α → Cache α
  | .error _ => { cache with misses := cache.misses + 1 }
  | .ok value => { cache with misses := cache.misses + 1 }.insert key value

theorem hits_afterMaking (result : Except ε α) :
    (cache.afterMaking key result).hits = cache.hits := by
  cases result <;> rfl

theorem misses_afterMaking (result : Except ε α) :
    (cache.afterMaking key result).misses = cache.misses + 1 := by
  cases result <;> rfl

/-- A value that is not kept is made, and kept if there was no error. -/
theorem getOrCreate_of_not_kept (hroom : 0 < cache.maxsize)
    (h : cache.get? key = none) :
    cache.getOrCreate key make state
      = ⟨(make state).1, cache.afterMaking key (make state).1,
          (make state).2⟩ := by
  rw [getOrCreate, if_neg (by omega), h]
  cases hmake : make state with
  | mk result next => cases result <;> rfl

/-- All a use of a cache can do: with no room a value is made; a value that
is kept is the answer; else one is made, and kept when there is one. -/
theorem getOrCreate_cases (cache : Cache α) (key : Text)
    (make : σ → Except ε α × σ) (state : σ) :
    (cache.maxsize ≤ 0
      ∧ cache.getOrCreate key make state
        = ⟨(make state).1, cache, (make state).2⟩)
    ∨ (0 < cache.maxsize ∧ ∃ value, (key, value) ∈ cache.entries
      ∧ cache.getOrCreate key make state
        = ⟨.ok value, cache.touch key value, state⟩)
    ∨ (0 < cache.maxsize ∧ key ∉ cache.keys
      ∧ cache.getOrCreate key make state
        = ⟨(make state).1, cache.afterMaking key (make state).1,
            (make state).2⟩) := by
  by_cases hroom : cache.maxsize ≤ 0
  · exact .inl ⟨hroom, getOrCreate_of_no_room hroom⟩
  have hpos : 0 < cache.maxsize := by omega
  cases hget : cache.get? key with
  | some value =>
      exact .inr (.inl ⟨hpos, value, mem_entries_of_get? hget,
        getOrCreate_of_kept hpos hget⟩)
  | none =>
      exact .inr (.inr ⟨hpos, get?_eq_none_iff.mp hget,
        getOrCreate_of_not_kept hpos hget⟩)

/-- A key that is used goes to the end. -/
theorem keys_touch :
    (cache.touch key value).keys
      = cache.keys.filter (· != key) ++ [key] := by
  rw [keys, keys, List.filter_map, touch, List.map_append]
  rfl

/-- A key comes to the end, and the oldest go where there is no room. -/
theorem keys_insert {n : Nat} (hroom : cache.maxsize = n + 1)
    (hlength : cache.keys.length ≤ n + 1) :
    (cache.insert key value).keys = cache.keys.rtake n ++ [key] := by
  have hkeys : (cache.entries ++ [(key, value)]).map Prod.fst
      = cache.keys ++ [key] := List.map_append
  have hgrown : (cache.entries ++ [(key, value)]).length
      = cache.keys.length + 1 := by
    rw [keys, List.length_append, List.length_map, List.length_singleton]
  rw [keys, insert]
  simp only [hgrown, hroom]
  split
  · have hfull : cache.keys.length - n = 1 := by omega
    rw [List.map_drop, hkeys, List.rtake, hfull,
      List.drop_append_of_le_length (by omega)]
  · rw [hkeys, rtake_of_length_le (by omega)]

/-- Nothing else comes in with a key. -/
theorem keys_insert_sublist :
    (cache.insert key value).keys.Sublist (cache.keys ++ [key]) := by
  have hkeys : (cache.entries ++ [(key, value)]).map Prod.fst
      = cache.keys ++ [key] := List.map_append
  rw [← hkeys, keys, insert]
  apply List.Sublist.map
  dsimp only
  split
  · exact List.drop_sublist _ _
  · exact List.Sublist.refl _

/-- A use that gives a value brings its text to the end and keeps as many
of the texts in front as there is room for. -/
theorem keys_getOrCreate {n : Nat} (hroom : cache.maxsize = n + 1)
    (hlength : cache.keys.length ≤ n + 1)
    (h : (cache.getOrCreate key make state).result = .ok value) :
    (cache.getOrCreate key make state).cache.keys
      = (cache.keys.filter (· != key)).rtake n ++ [key] := by
  obtain ⟨hnone, -⟩ | ⟨-, kept, hkept, heq⟩ | ⟨-, hkey, heq⟩ :=
    getOrCreate_cases cache key make state
  · omega
  · -- a kept text gives up its place, so there is room for the others
    have hmem : key ∈ cache.keys := mem_keys hkept
    have hfewer : (cache.keys.filter (· != key)).length
        < cache.keys.length :=
      List.length_filter_lt_length_iff_exists.mpr ⟨key, hmem, by simp⟩
    rw [heq, keys_touch, rtake_of_length_le (by omega)]
  · have hsame : cache.keys.filter (· != key) = cache.keys := by
      rw [List.filter_eq_self]
      intro other hother
      rw [bne_iff_ne]
      rintro rfl
      exact hkey hother
    rw [heq] at h ⊢
    have hmade : (make state).1 = .ok value := h
    rw [hmade, hsame]
    exact keys_insert hroom hlength

/-- An entry behind a use is old or the one used. -/
theorem mem_entries_touch {entry : Text × α}
    (h : entry ∈ (cache.touch key value).entries) :
    entry ∈ cache.entries ∨ entry = (key, value) := by
  rcases List.mem_append.mp h with hold | hnew
  · exact .inl (List.mem_of_mem_filter hold)
  · exact .inr (List.mem_singleton.mp hnew)

/-- An entry behind an insertion is old or the one inserted. -/
theorem mem_entries_insert {entry : Text × α}
    (h : entry ∈ (cache.insert key value).entries) :
    entry ∈ cache.entries ∨ entry = (key, value) := by
  have hgrown : entry ∈ cache.entries ++ [(key, value)] := by
    simp only [insert] at h
    split at h
    · exact List.mem_of_mem_drop h
    · exact h
  rcases List.mem_append.mp hgrown with hold | hnew
  · exact .inl hold
  · exact .inr (List.mem_singleton.mp hnew)

/-- An entry behind a factory is old or what the factory made. -/
theorem mem_entries_afterMaking {result : Except ε α}
    {entry : Text × α}
    (h : entry ∈ (cache.afterMaking key result).entries) :
    entry ∈ cache.entries ∨ entry.1 = key ∧ result = .ok entry.2 := by
  cases result with
  | error e => exact .inl h
  | ok value =>
      rcases mem_entries_insert h with hold | rfl
      · exact .inl hold
      · exact .inr ⟨rfl, rfl⟩

/-- What a cache holds after a use it held before, or the use made it. -/
theorem mem_entries_getOrCreate {entry : Text × α}
    (h : entry ∈ (cache.getOrCreate key make state).cache.entries) :
    entry ∈ cache.entries
      ∨ 0 < cache.maxsize ∧ key ∉ cache.keys ∧ entry.1 = key
        ∧ (make state).1 = .ok entry.2 := by
  obtain ⟨-, heq⟩ | ⟨-, kept, hkept, heq⟩ | ⟨hpos, hkey, heq⟩ :=
    getOrCreate_cases cache key make state
  · rw [heq] at h
    exact .inl h
  · rw [heq] at h
    rcases mem_entries_touch h with hold | rfl
    · exact .inl hold
    · exact .inl hkept
  · rw [heq] at h
    rcases mem_entries_afterMaking h with hold | hnew
    · exact .inl hold
    · exact .inr ⟨hpos, hkey, hnew⟩

/-- A use that gives no value leaves what is kept as it was. -/
theorem entries_getOrCreate_of_error {e : ε}
    (h : (cache.getOrCreate key make state).result = .error e) :
    (cache.getOrCreate key make state).cache.entries = cache.entries := by
  obtain ⟨-, heq⟩ | ⟨-, kept, -, heq⟩ | ⟨-, -, heq⟩ :=
    getOrCreate_cases cache key make state
  · rw [heq]
  · rw [heq] at h
    cases h
  · rw [heq] at h ⊢
    have hfailed : (make state).1 = .error e := h
    rw [hfailed, afterMaking]

/-- A text keeps one place. -/
theorem nodup_keys_getOrCreate (h : cache.keys.Nodup) :
    (cache.getOrCreate key make state).cache.keys.Nodup := by
  obtain ⟨-, heq⟩ | ⟨-, kept, -, heq⟩ | ⟨-, hkey, heq⟩ :=
    getOrCreate_cases cache key make state
  · rw [heq]
    exact h
  · rw [heq, keys_touch, ← List.concat_eq_append]
    exact (h.filter _).concat (by simp)
  · rw [heq]
    cases (make state).1 with
    | error e => exact h
    | ok value =>
        have hgrown : (cache.keys ++ [key]).Nodup := by
          rw [← List.concat_eq_append]
          exact h.concat hkey
        exact hgrown.sublist keys_insert_sublist

/-- A text that is kept after a use of it is kept with the answer. -/
theorem result_getOrCreate_of_mem (hroom : 0 < cache.maxsize)
    (h : (key, value)
      ∈ (cache.getOrCreate key make state).cache.entries) :
    (cache.getOrCreate key make state).result = .ok value := by
  obtain ⟨hnone, -⟩ | ⟨-, kept, -, heq⟩ | ⟨-, hkey, heq⟩ :=
    getOrCreate_cases cache key make state
  · omega
  · rw [heq] at h ⊢
    rcases List.mem_append.mp h with hother | hnew
    · exact absurd (List.of_mem_filter hother) (by simp)
    · rw [(Prod.mk.inj (List.mem_singleton.mp hnew)).2]
  · rw [heq] at h ⊢
    rcases mem_entries_afterMaking h with hold | ⟨-, hmade⟩
    · exact absurd (mem_keys hold) hkey
    · exact hmade

theorem maxsize_getOrCreate :
    (cache.getOrCreate key make state).cache.maxsize = cache.maxsize := by
  obtain ⟨-, heq⟩ | ⟨-, kept, -, heq⟩ | ⟨-, -, heq⟩ :=
    getOrCreate_cases cache key make state
  · rw [heq]
  · rw [heq, touch]
  · rw [heq]
    cases (make state).1 <;> rfl

end

-- ====================================================== a cache in use

variable {σ ε α : Type}

/-- What a cache can be asked for: the value under a text, with a way to
make it, or to forget everything. -/
inductive Request (σ ε α : Type) where
  | fetch (key : Text) (make : σ → Except ε α × σ)
  | clear

/-- A cache and the state of its caller, with the history since the cache
was last cleared, newest first: what was made, and what the fetches came
to. -/
structure Usage (σ ε α : Type) where
  cache : Cache α
  state : σ
  made : List (Text × Except ε α) := []
  fetches : List (Text × Except ε α) := []

/-- Making a value, and noting under which text and what became of it. -/
def noting (key : Text) (make : σ → Except ε α × σ)
    (before : σ × List (Text × Except ε α)) :
    Except ε α × (σ × List (Text × Except ε α)) :=
  let answer := make before.1
  (answer.1, answer.2, (key, answer.1) :: before.2)

namespace Usage

/-- A cache no one has used yet. -/
def start (size : Int) (state : σ) : Usage σ ε α :=
  { cache := { maxsize := size }, state }

/-- After one more request. -/
def step (usage : Usage σ ε α) : Request σ ε α → Usage σ ε α
  | .fetch key make =>
    let fetched := usage.cache.getOrCreate key (noting key make)
      (usage.state, usage.made)
    { cache := fetched.cache
      state := fetched.state.1
      made := fetched.state.2
      fetches := (key, fetched.result) :: usage.fetches }
  | .clear => { cache := usage.cache.clear, state := usage.state }

/-- After several requests. -/
def run (usage : Usage σ ε α) (requests : List (Request σ ε α)) :
    Usage σ ε α :=
  requests.foldl step usage

/-- The texts whose fetch gave a value, oldest first. -/
def used (usage : Usage σ ε α) : List Text :=
  (usage.fetches.filter fun fetch => fetch.2.isOk).reverse.map Prod.fst

/-- A cache of a size agrees with its history. -/
structure Agrees (size : Int) (usage : Usage σ ε α) : Prop where
  maxsize : usage.cache.maxsize = size
  keys : usage.cache.keys = newest size.toNat usage.used
  values : ∀ entry ∈ usage.cache.entries,
    usage.made.lookup entry.1 = some (.ok entry.2)
  fetches : usage.cache.hits + usage.cache.misses = usage.fetches.length
  made : usage.cache.misses = usage.made.length

variable {usage : Usage σ ε α} {size : Int} {key : Text} {value : α}
  {make : σ → Except ε α × σ}

/-- A fetch of what is kept adds nothing to what was made. -/
theorem step_of_kept (hroom : 0 < usage.cache.maxsize)
    (h : usage.cache.get? key = some value) :
    usage.step (.fetch key make)
      = { usage with
          cache := usage.cache.touch key value
          fetches := (key, .ok value) :: usage.fetches } := by
  rw [step, getOrCreate_of_kept hroom h]

/-- A fetch of what is not kept makes it. -/
theorem step_of_not_kept (hroom : 0 < usage.cache.maxsize)
    (h : usage.cache.get? key = none) :
    usage.step (.fetch key make)
      = { cache := usage.cache.afterMaking key (make usage.state).1
          state := (make usage.state).2
          made := (key, (make usage.state).1) :: usage.made
          fetches := (key, (make usage.state).1) :: usage.fetches } := by
  rw [step, getOrCreate_of_not_kept hroom h]
  rfl

/-- A fetch that has a value uses its key. -/
theorem used_of_ok {before : Usage σ ε α}
    (h : usage.fetches = (key, .ok value) :: before.fetches) :
    usage.used = before.used ++ [key] := by
  rw [used, h, List.filter_cons_of_pos rfl, List.reverse_cons,
    List.map_append, used]
  rfl

/-- One that has an error uses nothing. -/
theorem used_of_error {before : Usage σ ε α} {e : ε}
    (h : usage.fetches = (key, .error e) :: before.fetches) :
    usage.used = before.used := by
  rw [used, h, List.filter_cons_of_neg Bool.false_ne_true, used]

/-- At the start nothing is kept and nothing was used. -/
theorem agrees_start (size : Int) (state : σ) :
    (start size state : Usage σ ε α).Agrees size where
  maxsize := rfl
  keys := by simp [start, used, Cache.keys, newest]
  values := List.forall_mem_nil _
  fetches := rfl
  made := rfl

/-- Clearing forgets what was used along with what is kept. -/
theorem Agrees.clear (h : usage.Agrees size) :
    (usage.step .clear).Agrees size where
  maxsize := h.maxsize
  keys := by simp [step, Cache.clear, used, Cache.keys, newest]
  values := List.forall_mem_nil _
  fetches := rfl
  made := rfl

/-- Behind a fetch the newest keys are kept, in the order of their last
use. The key was kept, or made, or its factory failed. -/
theorem Agrees.keys_fetch (h : usage.Agrees size) (hsize : 1 ≤ size) :
    (usage.step (.fetch key make)).cache.keys
      = newest size.toNat (usage.step (.fetch key make)).used := by
  obtain ⟨n, hn⟩ : ∃ n : Nat, size = n + 1 := ⟨size.toNat - 1, by omega⟩
  have htoNat : size.toNat = n + 1 := by omega
  have hkeys := h.keys
  rw [htoNat] at hkeys ⊢
  cases hresult : (usage.cache.getOrCreate key (noting key make)
      (usage.state, usage.made)).result with
  | ok value =>
      have hused : (usage.step (.fetch key make)).used
          = usage.used ++ [key] :=
        used_of_ok (congrArg (fun result => (key, result) :: usage.fetches)
          hresult)
      have hlength : usage.cache.keys.length ≤ n + 1 :=
        hkeys ▸ length_rtake_le _ _
      rw [hused, newest_concat, ← hkeys]
      exact keys_getOrCreate (h.maxsize.trans hn) hlength hresult
  | error e =>
      have hused : (usage.step (.fetch key make)).used = usage.used :=
        used_of_error (congrArg
          (fun result => (key, result) :: usage.fetches) hresult)
      rw [hused, ← hkeys]
      exact congrArg (List.map Prod.fst)
        (entries_getOrCreate_of_error hresult)

/-- What is kept is what was made last under its text: a new value is made
only for a text that was not kept. -/
theorem Agrees.values_fetch (h : usage.Agrees size)
    (hroom : 0 < usage.cache.maxsize) {entry : Text × α}
    (hentry : entry ∈ (usage.step (.fetch key make)).cache.entries) :
    (usage.step (.fetch key make)).made.lookup entry.1
      = some (.ok entry.2) := by
  cases hget : usage.cache.get? key with
  | some kept =>
      rw [step_of_kept hroom hget] at hentry ⊢
      rcases mem_entries_touch hentry with hold | rfl
      · exact h.values entry hold
      · exact h.values _ (mem_entries_of_get? hget)
  | none =>
      -- the note of the new value hides no older one that is still kept
      have hmade : (usage.step (.fetch key make)).made
          = (key, (make usage.state).1) :: usage.made := by
        rw [step_of_not_kept hroom hget]
      rw [hmade, List.lookup_cons]
      rcases mem_entries_getOrCreate hentry with hold | ⟨-, -, rfl, hvalue⟩
      · have hother : entry.1 ≠ key := by
          rintro rfl
          exact get?_eq_none_iff.mp hget (mem_keys hold)
        rw [beq_eq_false_iff_ne.mpr hother]
        exact h.values entry hold
      · rw [beq_self_eq_true]
        exact congrArg some hvalue

/-- Every fetch is a hit or a miss. -/
theorem Agrees.fetches_fetch (h : usage.Agrees size)
    (hroom : 0 < usage.cache.maxsize) :
    (usage.step (.fetch key make)).cache.hits
        + (usage.step (.fetch key make)).cache.misses
      = (usage.step (.fetch key make)).fetches.length := by
  have hbefore := h.fetches
  cases hget : usage.cache.get? key with
  | some kept =>
      rw [step_of_kept hroom hget]
      simp only [touch, List.length_cons]
      omega
  | none =>
      rw [step_of_not_kept hroom hget, hits_afterMaking,
        misses_afterMaking, List.length_cons]
      omega

/-- And every miss calls a factory. -/
theorem Agrees.made_fetch (h : usage.Agrees size)
    (hroom : 0 < usage.cache.maxsize) :
    (usage.step (.fetch key make)).cache.misses
      = (usage.step (.fetch key make)).made.length := by
  cases hget : usage.cache.get? key with
  | some kept =>
      rw [step_of_kept hroom hget]
      exact h.made
  | none =>
      rw [step_of_not_kept hroom hget, misses_afterMaking,
        List.length_cons, h.made]

/-- A request keeps a cache in agreement with its history. -/
theorem Agrees.step (h : usage.Agrees size) (hsize : 1 ≤ size)
    (request : Request σ ε α) : (usage.step request).Agrees size := by
  have hroom : 0 < usage.cache.maxsize := by
    rw [h.maxsize]
    omega
  cases request with
  | clear => exact h.clear
  | fetch key make =>
      exact {
        maxsize := maxsize_getOrCreate.trans h.maxsize
        keys := h.keys_fetch hsize
        values := fun _ hentry => h.values_fetch hroom hentry
        fetches := h.fetches_fetch hroom
        made := h.made_fetch hroom }

/-- So the cache agrees with its history at the end of any history. -/
theorem Agrees.run (h : usage.Agrees size) (hsize : 1 ≤ size)
    (requests : List (Request σ ε α)) :
    (usage.run requests).Agrees size := by
  induction requests generalizing usage with
  | nil => exact h
  | cons request requests ih => exact ih (h.step hsize request)

/-- A text that is kept is answered with the value made last for it, and
none is made. -/
theorem Agrees.fetch_of_kept (h : usage.Agrees size) (hsize : 1 ≤ size)
    (hkey : key ∈ usage.cache.keys) (make : σ → Except ε α × σ) :
    let next := usage.step (.fetch key make)
    next.made = usage.made ∧ next.state = usage.state
      ∧ ∃ value, usage.made.lookup key = some (.ok value)
        ∧ next.fetches = (key, .ok value) :: usage.fetches := by
  have hroom : 0 < usage.cache.maxsize := by
    rw [h.maxsize]
    omega
  obtain ⟨value, hget⟩ := exists_get?_of_mem_keys hkey
  simp only [step_of_kept hroom hget, true_and]
  exact ⟨value, h.values _ (mem_entries_of_get? hget), rfl⟩

/-- For a text that is not kept a value is made, once, and what became of
it is the answer; when it failed, that is all that happens. -/
theorem Agrees.fetch_of_not_kept (h : usage.Agrees size)
    (hsize : 1 ≤ size) (hkey : key ∉ usage.cache.keys)
    (make : σ → Except ε α × σ) :
    let next := usage.step (.fetch key make)
    let answer := make usage.state
    next.made = (key, answer.1) :: usage.made
      ∧ next.state = answer.2
      ∧ next.fetches = (key, answer.1) :: usage.fetches
      ∧ ∀ e, answer.1 = .error e →
        next.cache
          = { usage.cache with misses := usage.cache.misses + 1 } := by
  have hroom : 0 < usage.cache.maxsize := by
    rw [h.maxsize]
    omega
  simp only [step_of_not_kept hroom (get?_eq_none_iff.mpr hkey), true_and]
  intro e herror
  rw [herror, afterMaking]

/-- The cache keeps what was used last. Whatever was asked of a cache with
room for at least one text, its texts are the newest that were used since
it was last cleared; its counts are those of the fetches and of the values
made. The next fetch makes no value when its text is one of them and gives
the one made last under it; it makes one otherwise, and when that fails
only the count of misses changes. -/
theorem run_keeps_newest {size : Int} (hsize : 1 ≤ size) (state : σ)
    (requests : List (Request σ ε α)) :
    let usage := (start size state).run requests
    usage.cache.keys = newest size.toNat usage.used
      ∧ usage.cache.hits + usage.cache.misses = usage.fetches.length
      ∧ usage.cache.misses = usage.made.length
      ∧ ∀ key make,
        let next := usage.step (.fetch key make)
        let answer := make usage.state
        (key ∈ usage.cache.keys →
          next.made = usage.made ∧ next.state = usage.state
            ∧ ∃ value, usage.made.lookup key = some (.ok value)
              ∧ next.fetches = (key, .ok value) :: usage.fetches)
        ∧ (key ∉ usage.cache.keys →
          next.made = (key, answer.1) :: usage.made
            ∧ next.state = answer.2
            ∧ next.fetches = (key, answer.1) :: usage.fetches
            ∧ ∀ e, answer.1 = .error e →
              next.cache = { usage.cache with
                misses := usage.cache.misses + 1 }) := by
  intro usage
  have hagrees : usage.Agrees size :=
    (agrees_start size state).run hsize requests
  refine ⟨hagrees.keys, hagrees.fetches, hagrees.made, ?_⟩
  intro key make
  exact ⟨fun hkey => hagrees.fetch_of_kept hsize hkey make,
    fun hkey => hagrees.fetch_of_not_kept hsize hkey make⟩

/-- Making the number of values made before. -/
def counting (n : Nat) : Except Unit Nat × Nat := (.ok n, n + 1)

/-- Counting an attempt that fails. -/
def failing (n : Nat) : Except Unit Nat × Nat := (.error (), n + 1)

/-- Four texts for a cache of two: `a` is used again before `c` is new, so
`b` goes; the first attempt at `d` fails, and `b` comes back for `a`. -/
def crowding : List (Request Nat Unit Nat) :=
  [.fetch ['z'] counting, .clear, .fetch ['a'] counting,
    .fetch ['b'] counting, .fetch ['a'] failing, .fetch ['c'] counting,
    .fetch ['d'] failing, .fetch ['b'] counting]

/-- One hit among six fetches, and the number that was made for `b` last,
not its first. -/
theorem run_keeps_newest_crowding :
    (1 : Int) ≤ 2
      ∧ ((start 2 0).run crowding).cache.keys = [[.scalar 'c'], [.scalar 'b']]
      ∧ newest 2 ((start 2 0).run crowding).used
        = [[.scalar 'c'], [.scalar 'b']]
      ∧ ((start 2 0).run crowding).cache.misses = 5
      ∧ (((start 2 0).run crowding).step (.fetch ['b'] failing)).fetches
        = ([.scalar 'b'], .ok 5) :: ((start 2 0).run crowding).fetches := by
  have hsize : (1 : Int) ≤ 2 := by decide
  have hkeys : ((start 2 0).run crowding).cache.keys
      = [[.scalar 'c'], [.scalar 'b']] := by
    decide
  obtain ⟨hnewest, -, hmisses, hnext⟩ := run_keeps_newest hsize 0 crowding
  obtain ⟨-, -, value, hvalue, hfetches⟩ :=
    (hnext ['b'] failing).1 (hkeys ▸ by decide)
  have hmade : ((start 2 0).run crowding).made.lookup [.scalar 'b']
      = some (.ok 5) := by
    rfl
  rw [hmade] at hvalue
  cases hvalue
  exact ⟨hsize, hkeys, hnewest.symm.trans hkeys, hmisses, hfetches⟩

end Usage

end Cache

end TildeFormat
