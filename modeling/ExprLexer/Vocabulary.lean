import ExprLexer.Datum
import ExprLexer.Record

/-!
# Vocabularies

A vocabulary holds the registered operators, once as a list in the order of registration and once
more in buckets by length, and it holds the lengths from the greatest to the least, the order of a
lookup. It grows by registration until its first use freezes it. A registered operator may be
registered again at any time, without effect.
-/

namespace ExprLexer

structure Vocabulary where
  operators : List Text
  /-- The operators by length. The lengths stand in the order of their first operators. -/
  buckets : List (Nat × List Text)
  /-- Sorted anew only when an operator brings a length that no bucket has. -/
  lengths : List Nat
  frozen : Bool
  deriving DecidableEq

inductive Refusal
  | notAnOperator (d : Datum)
  | inUse (op : Text)

def Refusal.message : Refusal → Text
  | notAnOperator d => "Operator must be a non-empty string, got " ++ d.display
  | inUse op => "Cannot register operator " ++ op.quoted ++ ": config is already in use"

/-- The outcome of a registration: the vocabulary after it, the records it wrote, and the refusal
that ended it, if one did. -/
structure Registration where
  vocabulary : Vocabulary
  records : List Record
  refusal? : Option Refusal

namespace Vocabulary

def empty : Vocabulary := ⟨[], [], [], false⟩

def sorted (v : Vocabulary) : List Text :=
  Text.sort v.operators

def display (v : Vocabulary) : Text :=
  "TokenizerConfig(operators=" ++ (Datum.list (v.sorted.map .text)).display ++ ")"

/-- Adds an operator to the bucket of its length, or a bucket at the end if there is none. -/
def file (op : Text) : List (Nat × List Text) → List (Nat × List Text)
  | [] => [(op.length, [op])]
  | (size, ops) :: rest =>
    if size = op.length then (size, op :: ops) :: rest else (size, ops) :: file op rest

def place (n : Nat) : List Nat → List Nat
  | [] => [n]
  | m :: rest => if m < n then n :: m :: rest else m :: place n rest

def descending : List Nat → List Nat
  | [] => []
  | n :: rest => place n (descending rest)

def sizes (buckets : List (Nat × List Text)) : List Nat :=
  buckets.map Prod.fst

def insert (v : Vocabulary) (op : Text) : Vocabulary :=
  let buckets := file op v.buckets
  { v with
    operators := v.operators ++ [op]
    buckets
    lengths := if op.length ∈ sizes v.buckets then v.lengths else descending (sizes buckets) }

def register (v : Vocabulary) : Datum → Registration
  | .text (c :: t) =>
    if c :: t ∈ v.operators then ⟨v, [], none⟩
    else if v.frozen then ⟨v, [], some (.inUse (c :: t))⟩
    else ⟨v.insert (c :: t), [.registered (c :: t)], none⟩
  | d => ⟨v, [], some (.notAnOperator d)⟩

/-- Registers one datum after the other up to the first refusal. What was registered before it
stays. -/
def registerAll (v : Vocabulary) : List Datum → Registration
  | [] => ⟨v, [], none⟩
  | d :: ds =>
    let first := v.register d
    match first.refusal? with
    | some _ => first
    | none =>
      let others := first.vocabulary.registerAll ds
      { others with records := first.records ++ others.records }

def build (ds : List Datum) : Registration :=
  empty.registerAll ds

/-- The first use: afterwards the operators never change. Only a change is recorded. -/
def freeze (v : Vocabulary) : Vocabulary × List Record :=
  if v.frozen then (v, [])
  else ({ v with frozen := true }, [.frozen v.operators.length])

def bucket (v : Vocabulary) (size : Nat) : List Text :=
  (v.buckets.lookup size).getD []

/-- The first operator, by the list of lengths, that equals the candidate of its length. -/
def find? (v : Vocabulary) (candidate : Nat → Text) : Option Text :=
  v.lengths.findSome? fun size =>
    let text := candidate size
    if text.length = size ∧ text ∈ v.bucket size then some text else none

def longest? (v : Vocabulary) (input : Text) : Option Text :=
  v.find? input.take

/-- The longest operator that is the slice of its length at `position`. The ends of a slice wrap
around separately, so a slice at a negative position that would reach the end of the source is
empty. -/
def matchAt (v : Vocabulary) (source : Text) (position : Int) : Option Text :=
  v.find? fun size => source.slice position (position + size)

end Vocabulary

end ExprLexer
