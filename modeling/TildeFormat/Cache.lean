/-
The cache: values under texts, at most a given number of them. Every use
of a text makes it the newest; when a new one would be too many, the
oldest goes. A value that is not there is made on the spot, and nothing
is kept when that fails. With room for none, every use makes its value
and leaves no trace.

Making a value may change a state of the caller's, so a use says what
became of it: it is the old state exactly when nothing was made.
-/
import TildeFormat.Text.Basic

namespace TildeFormat

/-- A bounded store. -/
structure Cache (α : Type) where
  maxsize : Int := 256
  /-- What is kept, oldest first. -/
  entries : List (Text × α) := []
  hits : Nat := 0
  misses : Nat := 0

/-- What a use of the cache comes to. -/
structure Fetched (σ ε α : Type) where
  result : Except ε α
  cache : Cache α
  state : σ

namespace Cache

variable {σ ε α : Type}

/-- The texts with a value, oldest first. -/
def keys (cache : Cache α) : List Text := cache.entries.map Prod.fst

/-- The value kept under a text. -/
def get? (cache : Cache α) (key : Text) : Option α :=
  cache.entries.lookup key

/-- A value is kept under the text. -/
def contains (cache : Cache α) (key : Text) : Bool :=
  (cache.get? key).isSome

/-- The cache after a hit: the text is the newest. -/
def touch (cache : Cache α) (key : Text) (value : α) : Cache α :=
  { cache with
    hits := cache.hits + 1
    entries := cache.entries.filter (fun e => e.1 != key)
      ++ [(key, value)] }

/-- The cache with a new value, without its oldest when that is one too
many. -/
def insert (cache : Cache α) (key : Text) (value : α) : Cache α :=
  let grown := cache.entries ++ [(key, value)]
  { cache with
    entries :=
      if cache.maxsize < grown.length then grown.drop 1 else grown }

/-- The value under a text, made when it is not there. -/
def getOrCreate (cache : Cache α) (key : Text)
    (make : σ → Except ε α × σ) (state : σ) : Fetched σ ε α :=
  if cache.maxsize ≤ 0 then
    let (result, state) := make state
    ⟨result, cache, state⟩
  else
    match cache.get? key with
    | some value => ⟨.ok value, cache.touch key value, state⟩
    | none =>
      let missed := { cache with misses := cache.misses + 1 }
      match make state with
      | (.error e, state) => ⟨.error e, missed, state⟩
      | (.ok value, state) => ⟨.ok value, missed.insert key value, state⟩

/-- The cache without its values and its counts. -/
def clear (cache : Cache α) : Cache α := { maxsize := cache.maxsize }

end Cache

end TildeFormat
