/-
**Filter clauses.**

A clause is a predicate made ready for the backend: tests of one field each, joined by connectives.
A clause is in no way bound to be one that some predicate becomes; `Clause.and` and `Clause.or` join
any two.

* `spliced` — **the parts that a clause brings into a connective**: its own parts, if it has the
  same connective, and itself otherwise. All joining goes through it, so a connective never stands
  directly inside another of its kind unless it was put there by hand.
-/

import FacetQuery.Schema.Literal

namespace FacetQuery

/-- How a test relates a field to its operand. -/
inductive Relation where
  | eq
  | neq
  | gt
  | gte
  | lt
  | lte
  | within
deriving DecidableEq, Repr

namespace Relation

/-- The number of a relation. -/
def tag : Relation → UInt8
  | eq => 0x01
  | neq => 0x02
  | gt => 0x03
  | gte => 0x04
  | lt => 0x05
  | lte => 0x06
  | within => 0x07

/-- The backend's name of a bound, for the relations that are ranges. -/
def bound? : Relation → Option String
  | gt => some "gt"
  | gte => some "gte"
  | lt => some "lt"
  | lte => some "lte"
  | eq => none
  | neq => none
  | within => none

end Relation

/-- How clauses are joined. -/
inductive Connective where
  | and
  | or
  | not
deriving DecidableEq, Repr

/-- The number of a connective. -/
def Connective.tag : Connective → UInt8
  | and => 0x10
  | or => 0x11
  | not => 0x12

/-- A test of one field. -/
structure Test where
  field : String
  relation : Relation
  operand : Literal

/-- Whether two tests are alike, floating operands compared by value. -/
def Test.agrees (a b : Test) : Bool :=
  a.field == b.field && a.relation == b.relation && a.operand.agrees b.operand

/-- Tests joined by connectives. -/
inductive Clause where
  | test (test : Test)
  | joined (connective : Connective) (parts : List Clause)

namespace Clause

/-- The negation of a clause. -/
def not (part : Clause) : Clause := .joined .not [part]

/-! ### Measures -/

mutual

/-- The number of tests. -/
def leaves : Clause → Nat
  | .test _ => 1
  | .joined _ parts => leavesOfAll parts

/-- The number of tests of some clauses. -/
def leavesOfAll : List Clause → Nat
  | [] => 0
  | part :: rest => leaves part + leavesOfAll rest

end

mutual

/-- The number of levels. -/
def depth : Clause → Nat
  | .test _ => 1
  | .joined _ parts => 1 + depthOfAll parts

/-- The greatest number of levels of some clauses, none for no clauses. -/
def depthOfAll : List Clause → Nat
  | [] => 0
  | part :: rest => max (depth part) (depthOfAll rest)

end

/-! ### Parts -/

/-- The test that a clause is. -/
def test? : Clause → Option Test
  | .test leaf => some leaf
  | .joined .. => none

/-- The parts of a clause with a given connective, none of any other. -/
def partsOf (connective : Connective) : Clause → List Clause
  | .test _ => []
  | .joined own parts => if own = connective then parts else []

/-- The parts that a clause brings into a connective. -/
def spliced (connective : Connective) : Clause → List Clause
  | .test leaf => [.test leaf]
  | .joined own parts => if own = connective then parts else [.joined own parts]

/-! ### Joining -/

/-- Both clauses. -/
def and (left right : Clause) : Clause := .joined .and (left.spliced .and ++ right.spliced .and)

/-- One of two clauses. -/
def or (left right : Clause) : Clause := .joined .or (left.spliced .or ++ right.spliced .or)

/-- Some clauses under one connective; a single part stands for itself. -/
def join (connective : Connective) (clauses : List Clause) : Clause :=
  match clauses.flatMap (spliced connective) with
  | [part] => part
  | parts => .joined connective parts

/-! ### Agreement -/

mutual

/-- Whether two clauses are alike, floating operands compared by value. -/
def agrees : Clause → Clause → Bool
  | .test a, .test b => a.agrees b
  | .joined c a, .joined d b => c == d && agreeAll a b
  | _, _ => false

/-- Whether two lists of clauses are alike, one by one. -/
def agreeAll : List Clause → List Clause → Bool
  | [], [] => true
  | a :: moreA, b :: moreB => agrees a b && agreeAll moreA moreB
  | _, _ => false

end

end Clause

end FacetQuery
