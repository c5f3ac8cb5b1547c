/-
**Streams that can be read from the front.**

The first byte of a stream says which form follows, and what the form holds is written so that its
end can be found: with a fixed width, or behind a count of what comes. A count has four bytes, so
this is true as long as every text and every list has a length with room there (`Clause.Counted`).

* `Literal.stream_append_inj`, `Test.stream_append_inj` — **the parts**: whatever follows them, the
  bytes of two literals or tests are alike only if these are, and then what follows is.
* `Clause.stream_prefixFree` — **clauses**: likewise, and so two clauses share a fingerprint only by
  a collision of SHA-256.
-/

import FacetQuery.Proofs.Octets

namespace FacetQuery

/-! ### Lengths that have room in a count -/

mutual

/-- Whether every text and list of a literal has a length with room in a count. -/
def Literal.Counted : Literal → Prop
  | .null => True
  | .bool _ => True
  | .int _ => True
  | .uint _ => True
  | .float _ => True
  | .text content => content.utf8ByteSize < Octets.capacity
  | .choice name => name.utf8ByteSize < Octets.capacity
  | .instant _ => True
  | .list items => items.length < Octets.capacity ∧ Literal.AllCounted items

/-- Whether this is so of each of some literals. -/
def Literal.AllCounted : List Literal → Prop
  | [] => True
  | item :: rest => item.Counted ∧ Literal.AllCounted rest

end

/-- Whether every text and list of a test has a length with room in a count. -/
def Test.Counted (test : Test) : Prop :=
  test.field.utf8ByteSize < Octets.capacity ∧ test.operand.Counted

mutual

/-- Whether every text and list of a clause, and the parts of every connective, have a length with
room in a count. -/
def Clause.Counted : Clause → Prop
  | .test leaf => leaf.Counted
  | .joined _ parts => parts.length < Octets.capacity ∧ Clause.AllCounted parts

/-- Whether this is so of each of some clauses. -/
def Clause.AllCounted : List Clause → Prop
  | [] => True
  | part :: rest => part.Counted ∧ Clause.AllCounted rest

end

variable {s t : List UInt8}

/-! ### What a literal holds -/

namespace Binary

variable {f : FloatFormat}

theorem bits_lt (x : Binary f) : x.bits < 2 * f.codes := by
  have code := x.code_lt
  rw [bits]
  split <;> omega

/-- All bits of a number together are the number. -/
theorem bits_inj {x y : Binary f} : x.bits = y.bits ↔ x = y := by
  refine ⟨fun same => ?_, fun same => by rw [same]⟩
  obtain ⟨negative, code, code_lt⟩ := x
  obtain ⟨negativeOther, codeOther, codeOther_lt⟩ := y
  cases negative <;> cases negativeOther <;> simp only [bits, if_true, if_false,
    Bool.false_eq_true] at same
  · obtain rfl : code = codeOther := by omega
    rfl
  · omega
  · omega
  · obtain rfl : code = codeOther := by omega
    rfl

end Binary

/-- The seconds of an instant have room in eight bytes, and its nanoseconds in a count. -/
theorem Instant.counted (time : Instant) :
    (-9223372036854775808 ≤ time.seconds ∧ time.seconds < 9223372036854775808) ∧
      time.nanos < Octets.capacity := by
  obtain ⟨seconds, nanos, inRange⟩ := time
  simp only [InRange, earliest, latest] at inRange
  simp only [Octets.capacity]
  omega

namespace Literal

/-- The byte that says which form a literal has. -/
def tag : Literal → UInt8
  | .null => 0x30
  | .bool _ => 0x31
  | .int _ => 0x32
  | .uint _ => 0x33
  | .float _ => 0x34
  | .text _ => 0x35
  | .choice _ => 0x36
  | .instant _ => 0x37
  | .list _ => 0x38

/-- The bytes behind it. -/
def payload : Literal → List UInt8
  | .null => []
  | .bool flag => [if flag then 1 else 0]
  | .int n => Octets.signed n.toInt
  | .uint n => Octets.word n.toNat
  | .float x => Octets.word x.bits
  | .text content => Octets.text content
  | .choice name => Octets.text name
  | .instant time => Octets.signed time.seconds ++ Octets.count time.nanos
  | .list items => Octets.count items.length ++ streamAll items

theorem stream_eq (literal : Literal) : literal.stream = literal.tag :: literal.payload := by
  cases literal <;> rw [stream, tag, payload]

mutual

/-- **A literal can be read from the front.** -/
theorem stream_append_inj {a b : Literal} (counted : a.Counted) (countedOther : b.Counted)
    {s t : List UInt8} (same : a.stream ++ s = b.stream ++ t) : a = b ∧ s = t := by
  rw [stream_eq, stream_eq, List.cons_append, List.cons_append, List.cons.injEq] at same
  obtain ⟨tags, payloads⟩ := same
  -- Literals of one form have payloads of one form; two forms never share a tag.
  cases a with
  | null =>
    cases b with
    | null => exact ⟨rfl, payloads⟩
    | _ => simp [tag] at tags
  | bool flag =>
    cases b with
    | bool other => cases flag <;> cases other <;> simp_all [payload]
    | _ => simp [tag] at tags
  | int n =>
    cases b with
    | int m =>
      obtain ⟨equal, rest⟩ :=
        Octets.signed_append_inj ⟨n.le_toInt, n.toInt_lt⟩ ⟨m.le_toInt, m.toInt_lt⟩ payloads
      exact ⟨congrArg Literal.int (Int64.toInt_inj.mp equal), rest⟩
    | _ => simp [tag] at tags
  | uint n =>
    cases b with
    | uint m =>
      obtain ⟨equal, rest⟩ := Octets.bigEndian_append_inj n.toNat_lt m.toNat_lt payloads
      exact ⟨congrArg Literal.uint (UInt64.toNat_inj.mp equal), rest⟩
    | _ => simp [tag] at tags
  | float x =>
    cases b with
    | float y =>
      obtain ⟨equal, rest⟩ := Octets.bigEndian_append_inj x.bits_lt y.bits_lt payloads
      exact ⟨congrArg Literal.float (Binary.bits_inj.mp equal), rest⟩
    | _ => simp [tag] at tags
  | text content =>
    cases b with
    | text other =>
      obtain ⟨equal, rest⟩ := Octets.text_append_inj counted countedOther payloads
      exact ⟨congrArg Literal.text equal, rest⟩
    | _ => simp [tag] at tags
  | choice name =>
    cases b with
    | choice other =>
      obtain ⟨equal, rest⟩ := Octets.text_append_inj counted countedOther payloads
      exact ⟨congrArg Literal.choice equal, rest⟩
    | _ => simp [tag] at tags
  | instant time =>
    cases b with
    | instant other =>
      rw [payload, payload, List.append_assoc, List.append_assoc] at payloads
      obtain ⟨seconds, later⟩ := Octets.signed_append_inj time.counted.1 other.counted.1 payloads
      obtain ⟨nanos, rest⟩ := Octets.bigEndian_append_inj time.counted.2 other.counted.2 later
      exact ⟨congrArg Literal.instant (Instant.ext seconds nanos), rest⟩
    | _ => simp [tag] at tags
  | list items =>
    cases b with
    | list others =>
      rw [payload, payload, List.append_assoc, List.append_assoc] at payloads
      obtain ⟨lengths, each⟩ := Octets.bigEndian_append_inj counted.1 countedOther.1 payloads
      obtain ⟨equal, rest⟩ := streamAll_append_inj counted.2 countedOther.2 lengths each
      exact ⟨congrArg Literal.list equal, rest⟩
    | _ => simp [tag] at tags

/-- As many literals can be read from the front as are expected. -/
theorem streamAll_append_inj {a b : List Literal} (counted : AllCounted a)
    (countedOther : AllCounted b) (lengths : a.length = b.length) {s t : List UInt8}
    (same : streamAll a ++ s = streamAll b ++ t) : a = b ∧ s = t := by
  cases a with
  | nil =>
    cases b with
    | nil => exact ⟨rfl, same⟩
    | cons other others => exact absurd lengths (Nat.zero_ne_add_one _)
  | cons item items =>
    cases b with
    | nil => exact absurd lengths (Nat.add_one_ne_zero _)
    | cons other others =>
      rw [streamAll, streamAll, List.append_assoc, List.append_assoc] at same
      obtain ⟨rfl, later⟩ := stream_append_inj counted.1 countedOther.1 same
      obtain ⟨rfl, rest⟩ :=
        streamAll_append_inj counted.2 countedOther.2 (Nat.succ.inj lengths) later
      exact ⟨rfl, rest⟩

end

end Literal

/-! ### Tests -/

/-- The number of a relation says which one it is. -/
theorem Relation.tag_inj {a b : Relation} : a.tag = b.tag ↔ a = b := by
  cases a <;> cases b <;> decide

/-- **A test can be read from the front.** -/
theorem Test.stream_append_inj {a b : Test} (counted : a.Counted) (countedOther : b.Counted)
    (same : a.stream ++ s = b.stream ++ t) : a = b ∧ s = t := by
  obtain ⟨field, relation, operand⟩ := a
  obtain ⟨otherField, otherRelation, otherOperand⟩ := b
  simp only [stream, List.cons_append, List.append_assoc, List.nil_append] at same
  obtain ⟨rfl, afterField⟩ :=
    Octets.text_append_inj counted.1 countedOther.1 (List.tail_eq_of_cons_eq same)
  obtain ⟨tags, afterRelation⟩ := List.cons.inj afterField
  obtain rfl := Relation.tag_inj.mp tags
  obtain ⟨rfl, rest⟩ := Literal.stream_append_inj counted.2 countedOther.2 afterRelation
  exact ⟨rfl, rest⟩

/-! ### Clauses -/

/-- The number of a connective says which one it is. -/
theorem Connective.tag_inj {a b : Connective} : a.tag = b.tag ↔ a = b := by
  cases a <;> cases b <;> decide

/-- No connective has the number that tests start with. -/
theorem Connective.tag_ne (connective : Connective) : connective.tag ≠ 0x20 := by
  cases connective <;> decide

namespace Clause

mutual

/-- **A clause can be read from the front.** -/
theorem stream_append_inj {a b : Clause} (counted : a.Counted) (countedOther : b.Counted)
    {s t : List UInt8} (same : a.stream ++ s = b.stream ++ t) : a = b ∧ s = t := by
  cases a with
  | test leaf =>
    cases b with
    | test other =>
      obtain ⟨equal, rest⟩ := Test.stream_append_inj counted countedOther same
      exact ⟨congrArg Clause.test equal, rest⟩
    | joined connective parts =>
      exact absurd (List.head_eq_of_cons_eq same).symm connective.tag_ne
  | joined connective parts =>
    cases b with
    | test other => exact absurd (List.head_eq_of_cons_eq same) connective.tag_ne
    | joined otherConnective others =>
      rw [stream, stream, List.cons_append, List.cons_append, List.append_assoc,
        List.append_assoc] at same
      obtain ⟨tags, payloads⟩ := List.cons.inj same
      obtain rfl := Connective.tag_inj.mp tags
      obtain ⟨lengths, each⟩ := Octets.bigEndian_append_inj counted.1 countedOther.1 payloads
      obtain ⟨equal, rest⟩ := streamAll_append_inj counted.2 countedOther.2 lengths each
      exact ⟨congrArg _ equal, rest⟩

/-- As many clauses can be read from the front as are expected. -/
theorem streamAll_append_inj {a b : List Clause} (counted : AllCounted a)
    (countedOther : AllCounted b) (lengths : a.length = b.length) {s t : List UInt8}
    (same : streamAll a ++ s = streamAll b ++ t) : a = b ∧ s = t := by
  cases a with
  | nil =>
    cases b with
    | nil => exact ⟨rfl, same⟩
    | cons other others => exact absurd lengths (Nat.zero_ne_add_one _)
  | cons part parts =>
    cases b with
    | nil => exact absurd lengths (Nat.add_one_ne_zero _)
    | cons other others =>
      rw [streamAll, streamAll, List.append_assoc, List.append_assoc] at same
      obtain ⟨rfl, later⟩ := stream_append_inj counted.1 countedOther.1 same
      obtain ⟨rfl, rest⟩ :=
        streamAll_append_inj counted.2 countedOther.2 (Nat.succ.inj lengths) later
      exact ⟨rfl, rest⟩

end

end Clause

/-! ### Fingerprints -/

/-- Two different messages of one digest. -/
def Sha256.Collision (message other : List UInt8) : Prop :=
  message ≠ other ∧ digest message = digest other

namespace Clause

/-- What a fingerprint is the digest of. -/
def message (clause : Clause) : List UInt8 := Fingerprint.heading ++ clause.stream

/-- **The bytes of clauses are a prefix-free code**: whatever follows them, two clauses of the same
bytes are the same clause. So their fingerprints are alike only if the digest is alike for two
messages. -/
theorem stream_prefixFree {a b : Clause} (counted : a.Counted) (countedOther : b.Counted) :
    (∀ s t, a.stream ++ s = b.stream ++ t → s = t ∧ a = b) ∧
      (a ≠ b → a.fingerprint = b.fingerprint → Sha256.Collision a.message b.message) := by
  refine ⟨fun s t same => (stream_append_inj counted countedOther same).symm,
    fun distinct same => ?_⟩
  refine ⟨fun messages => distinct ?_, congrArg Fingerprint.bytes same⟩
  have streams : a.stream ++ [] = b.stream ++ [] := by
    rw [List.append_nil, List.append_nil]
    exact List.append_cancel_left messages
  exact (stream_append_inj counted countedOther streams).1

/-- Two memberships whose texts are alike when they are joined. -/
def cutAt (first second : String) : Clause :=
  .joined .and
    [.test ⟨"words", .within,
        .list [.text first, .text second, .list [.null, .float (.notANumber true)]]⟩,
      .test ⟨"at", .lt, .instant ⟨59, 1999999999, by decide⟩⟩]

/-- Neither of two such streams starts the other. -/
theorem stream_prefixFree_cutAt :
    (cutAt "ab" "c").Counted ∧ (cutAt "a" "bc").Counted ∧
      ∀ s t, (cutAt "ab" "c").stream ++ s ≠ (cutAt "a" "bc").stream ++ t := by
  have early : (cutAt "ab" "c").Counted := by
    simp only [cutAt, Counted, AllCounted, Test.Counted, Literal.Counted, Literal.AllCounted,
      and_true]
    decide
  have late : (cutAt "a" "bc").Counted := by
    simp only [cutAt, Counted, AllCounted, Test.Counted, Literal.Counted, Literal.AllCounted,
      and_true]
    decide
  refine ⟨early, late, fun s t same => ?_⟩
  have alike := ((stream_prefixFree early late).1 s t same).2
  simp [cutAt] at alike

end Clause

end FacetQuery
