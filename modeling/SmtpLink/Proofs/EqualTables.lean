import SmtpLink.Capabilities

/-!
# Equal tables

The extensions that a server announced form a set, and a set may be gone through in any order.  Two
tables are equal whatever that order is, so what a table says should not depend on it.  All that is
said of extensions and mechanisms does not.  The limit on the size of a message is the first size
that is met, and so it does: a table with several sizes may answer with each of them.

## Main definitions

* `Capabilities.Reordered` — the same name and the same set, gone through in some other order.
* `Capabilities.MayAnswer` — an answer for the limit that some order gives.
* `Capabilities.AgreesOnSize` — no two sizes differ.
* `Reply.Permuted` — the same greeting, with the lines behind it in some other order.

## Main results

* `Capabilities.mayAnswer_some_iff` — **each size that is announced is an answer, and no other is.**
* `Capabilities.equal_tables_answer_alike` — **equal tables answer alike**, about the limit exactly
  if no two sizes differ.
-/

namespace SmtpLink

/-- The same greeting, with the lines behind it in some other order. -/
def Reply.Permuted (r s : Reply) : Prop :=
  r.message.head? = s.message.head? ∧ r.message.tail.Perm s.message.tail

namespace Capabilities

/-- The same name and the same set, gone through in some other order. -/
def Reordered (c d : Capabilities) : Prop :=
  c.hostname = d.hostname ∧ c.extensions.Perm d.extensions

/-- In some order of its set, a table answers so about the limit on the size of a message. -/
def MayAnswer (c : Capabilities) (answer : Option Nat) : Prop :=
  ∃ d : Capabilities, d.Reordered c ∧ d.maxMessageSize? = answer

/-- No two sizes that are announced differ. -/
def AgreesOnSize (c : Capabilities) : Prop :=
  ∀ n ∈ sizesOf c.extensions, ∀ k ∈ sizesOf c.extensions, n = k

variable {c d : Capabilities}

/-! ### What the set alone decides -/

theorem mem_iff_of_same (equal : c.same d = true) (ext : Extension) :
    ext ∈ c.extensions ↔ ext ∈ d.extensions :=
  (same_iff.mp equal).2 ext

theorem mem_sizesOf_of_same (equal : c.same d = true) (n : Nat) :
    n ∈ sizesOf c.extensions ↔ n ∈ sizesOf d.extensions := by
  rw [mem_sizesOf, mem_sizesOf, mem_iff_of_same equal]

theorem mem_mechanismsOf_of_same (equal : c.same d = true) (m : AuthMechanism) :
    m ∈ mechanismsOf c.extensions ↔ m ∈ mechanismsOf d.extensions := by
  rw [mem_mechanismsOf, mem_mechanismsOf]
  refine exists_congr fun mechanisms => and_congr_left fun _ => ?_
  exact mem_iff_of_same equal (.auth mechanisms)

/-- The mechanisms of equal tables are the same, up to their order. -/
theorem authMechanisms_perm (equal : c.same d = true) :
    c.authMechanisms.Perm d.authMechanisms := by
  refine (List.perm_ext_iff_of_nodup (nodup_distinct _) (nodup_distinct _)).mpr fun m => ?_
  rw [mem_distinct, mem_distinct]
  exact mem_mechanismsOf_of_same equal m

theorem supports_eq (equal : c.same d = true) (ext : Extension) :
    c.supports ext = d.supports ext := by
  rw [Bool.eq_iff_iff, supports_iff, supports_iff]
  exact mem_iff_of_same equal ext

theorem supportsAuth_eq (equal : c.same d = true) (m : AuthMechanism) :
    c.supportsAuth m = d.supportsAuth m := by
  rw [Bool.eq_iff_iff, supportsAuth_iff, supportsAuth_iff]
  exact mem_mechanismsOf_of_same equal m

/-! ### What the order decides -/

theorem Reordered.same (reordered : c.Reordered d) : c.same d = true :=
  same_iff.mpr ⟨reordered.1, fun _ => reordered.2.mem_iff⟩

/-- A size is answered only if it is announced. -/
theorem mem_of_maxMessageSize? {n : Nat} (answer : c.maxMessageSize? = some n) :
    n ∈ sizesOf c.extensions :=
  List.mem_of_head? answer

theorem maxMessageSize?_eq_none_iff : c.maxMessageSize? = none ↔ sizesOf c.extensions = [] :=
  List.head?_eq_none_iff

/-- **Each size that is announced is an answer, and no other is**: some order begins with it. -/
theorem mayAnswer_some_iff {n : Nat} : c.MayAnswer (some n) ↔ n ∈ sizesOf c.extensions := by
  constructor
  · rintro ⟨d, reordered, answer⟩
    exact (mem_sizesOf_of_same reordered.same n).mp (mem_of_maxMessageSize? answer)
  · intro announced
    have mem : .size (some n) ∈ c.extensions := mem_sizesOf.mp announced
    -- the order that begins with this size
    have first := (List.perm_cons_erase mem).symm
    exact ⟨⟨c.hostname, .size (some n) :: c.extensions.erase (.size (some n))⟩, ⟨rfl, first⟩, rfl⟩

/-- No size is an answer exactly if none is announced. -/
theorem mayAnswer_none_iff : c.MayAnswer none ↔ ∀ n, n ∉ sizesOf c.extensions := by
  constructor
  · rintro ⟨d, reordered, answer⟩ n announced
    have mem := (mem_sizesOf_of_same reordered.same n).mpr announced
    rw [maxMessageSize?_eq_none_iff.mp answer] at mem
    exact absurd mem List.not_mem_nil
  · intro nothing
    refine ⟨c, ⟨rfl, .refl _⟩, ?_⟩
    exact maxMessageSize?_eq_none_iff.mpr (List.eq_nil_iff_forall_not_mem.mpr nothing)

/-- Equal tables may give the same answers. -/
theorem mayAnswer_iff_of_same (equal : c.same d = true) (answer : Option Nat) :
    c.MayAnswer answer ↔ d.MayAnswer answer := by
  have sizes := mem_sizesOf_of_same equal
  cases answer with
  | none =>
    rw [mayAnswer_none_iff, mayAnswer_none_iff]
    exact forall_congr' fun n => not_congr (sizes n)
  | some n => rw [mayAnswer_some_iff, mayAnswer_some_iff, sizes]

/-- There is one answer exactly if no two sizes differ. -/
theorem answer_unique_iff :
    (∀ a b, c.MayAnswer a → c.MayAnswer b → a = b) ↔ c.AgreesOnSize := by
  constructor
  · intro unique n there k too
    exact Option.some.inj (unique _ _ (mayAnswer_some_iff.mpr there) (mayAnswer_some_iff.mpr too))
  · intro agrees a b first second
    cases a with
    | none =>
      cases b with
      | none => rfl
      | some k => exact absurd (mayAnswer_some_iff.mp second) (mayAnswer_none_iff.mp first k)
    | some n =>
      have there := mayAnswer_some_iff.mp first
      cases b with
      | none => exact absurd there (mayAnswer_none_iff.mp second n)
      | some k => rw [agrees n there k (mayAnswer_some_iff.mp second)]

/-! ### Replies with their lines in some other order -/

/-- The order of the lines behind the greeting makes no difference to the table. -/
theorem same_ofReply {r s : Reply} (permuted : r.Permuted s) :
    (ofReply r).same (ofReply s) = true := by
  refine same_iff.mpr ⟨?_, fun ext => ?_⟩
  · show greetedName ((r.message.head?.map String.toList).getD []) = _
    rw [permuted.1]
    rfl
  · rw [ofReply, ofReply, mem_ofAnnouncement, mem_ofAnnouncement]
    simp only [permuted.2.mem_iff]

/-- **Equal tables answer alike**: the same extensions and mechanisms, and the same answers about
the limit on the size of a message, of which there is only one exactly if no two sizes differ.
Replies that announce the same lines in some other order make equal tables. -/
theorem equal_tables_answer_alike (c d : Capabilities) (equal : c.same d = true) :
    (∀ ext, c.supports ext = d.supports ext) ∧
    (∀ m, c.supportsAuth m = d.supportsAuth m) ∧
    c.authMechanisms.Perm d.authMechanisms ∧
    (∀ answer, c.MayAnswer answer ↔ d.MayAnswer answer) ∧
    ((∀ a b, c.MayAnswer a → d.MayAnswer b → a = b) ↔ c.AgreesOnSize) ∧
    ∀ r s : Reply, r.Permuted s → (ofReply r).same (ofReply s) = true := by
  have answers := mayAnswer_iff_of_same equal
  refine ⟨supports_eq equal, supportsAuth_eq equal, authMechanisms_perm equal, answers, ?_,
    fun r s => same_ofReply⟩
  simp only [← answers]
  exact answer_unique_iff

/-- An announcement with a size, with a size that is missing and with the size once more. -/
def sizeTwice : Reply := ⟨⟨250⟩, ["mail", "SIZE", "AUTH PLAIN", "SIZE 1000", "size=+1000"]⟩

/-- The same lines behind the same greeting, the other way round. -/
def sizeTwiceReversed : Reply :=
  ⟨⟨250⟩, ["mail", "size=+1000", "SIZE 1000", "AUTH PLAIN", "SIZE"]⟩

/-- Sizes that are missing or given twice do no harm. -/
theorem size_twice_answers_alike : (ofReply sizeTwice).same (ofReply sizeTwiceReversed) = true ∧
    (ofReply sizeTwice).authMechanisms.Perm (ofReply sizeTwiceReversed).authMechanisms ∧
    (ofReply sizeTwice).maxMessageSize? = (ofReply sizeTwiceReversed).maxMessageSize? := by
  have equal : (ofReply sizeTwice).same (ofReply sizeTwiceReversed) = true := by decide
  obtain ⟨-, -, mechanisms, -, unique, permuted⟩ := equal_tables_answer_alike _ _ equal
  refine ⟨permuted _ _ ⟨rfl, by decide⟩, mechanisms, unique.mpr ?_ _ _ ?_ ?_⟩
  · unfold AgreesOnSize
    decide
  · exact ⟨_, ⟨rfl, .refl _⟩, rfl⟩
  · exact ⟨_, ⟨rfl, .refl _⟩, rfl⟩

/-- **Equal tables do not always answer alike**: two sizes that differ, announced in either order,
make equal tables that answer with different limits. -/
theorem equal_tables_answer_apart :
    (ofReply ⟨⟨250⟩, ["mail", "SIZE 1000", "SIZE 2000"]⟩).same
      (ofReply ⟨⟨250⟩, ["mail", "SIZE 2000", "SIZE 1000"]⟩) = true ∧
    (ofReply ⟨⟨250⟩, ["mail", "SIZE 1000", "SIZE 2000"]⟩).maxMessageSize? = some 1000 ∧
    (ofReply ⟨⟨250⟩, ["mail", "SIZE 2000", "SIZE 1000"]⟩).maxMessageSize? = some 2000 :=
  ⟨by decide, by decide, by decide⟩

end Capabilities

end SmtpLink
