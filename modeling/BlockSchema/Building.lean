/-!
Contract: computations that may fail and that build results once, to be used again.

A computation works on a memory, and what it did to the memory stays done, also when it
fails later. A memory that is a list of results keeps them in the order in which they
were finished, so a result stands after those it is made of.
-/

set_option autoImplicit false

namespace BlockSchema

/-- A computation over a memory; `σ` is what the memory holds. -/
def Building (ε σ α : Type) : Type :=
  σ → Except ε α × σ

namespace Building

variable {ε σ ρ α β : Type}

protected def pure (value : α) : Building ε σ α :=
  fun memory => (.ok value, memory)

def fail (error : ε) : Building ε σ α :=
  fun memory => (.error error, memory)

/-- A computation continued by another one, unless it fails. -/
protected def bind (first : Building ε σ α) (next : α → Building ε σ β) : Building ε σ β :=
  fun memory =>
    match first memory with
    | (.ok value, later) => next value later
    | (.error error, later) => (.error error, later)

instance : Monad (Building ε σ) where
  pure := Building.pure
  bind := Building.bind

def ofExcept : Except ε α → Building ε σ α
  | .ok value => Building.pure value
  | .error error => fail error

/-- The result that satisfies a test, when it is built; else the computation, whose
value is built after it. -/
def once (isSought : ρ → Bool) (make : Building ε (List ρ) ρ) : Building ε (List ρ) ρ :=
  fun built =>
    match built.find? isSought with
    | some result => (.ok result, built)
    | none =>
        match make built with
        | (.ok result, later) => (.ok result, later ++ [result])
        | (.error error, later) => (.error error, later)

/-- A computation for every element, in order, up to the first failure. -/
def each (make : α → Building ε σ β) : List α → Building ε σ (List β)
  | [] => Building.pure []
  | element :: rest =>
      (make element).bind fun value =>
        (each make rest).bind fun values => Building.pure (value :: values)

end Building

end BlockSchema
