import SmtpLink.Extension
import SmtpLink.Reply.Line
import SmtpLink.Text.Lines

/-!
# Capabilities of a server

The table of what a server announced: its name and its extensions. The extensions form a set.
The table lists them in some order without repetition, and two tables are *equal* if they hold
the same name and the same set.

## Main definitions

* `Capabilities` — the table.
* `Capabilities.ofReply`, `Capabilities.parse` — the table from a reply, and from its text.
* `Capabilities.supports`, `maxMessageSize?`, `authMechanisms` — what the table says.
* `Capabilities.same` — equality of tables.

## Main results

* `mem_distinct`, `nodup_distinct` — every member is kept, once.
* `Capabilities.mem_ofAnnouncement` — the extensions are those of the lines behind the first.
* `Capabilities.same_iff` — what it takes for two tables to be equal.
-/

namespace SmtpLink

/-- A list without the repetitions of earlier members. -/
def distinct {α : Type} [DecidableEq α] (xs : List α) : List α :=
  xs.foldl (fun found x => if x ∈ found then found else found ++ [x]) []

theorem mem_foldl_distinct {α : Type} [DecidableEq α] {xs found : List α} {x : α} :
    x ∈ xs.foldl (fun found x => if x ∈ found then found else found ++ [x]) found ↔
      x ∈ found ∨ x ∈ xs := by
  induction xs generalizing found with
  | nil => simp
  | cons y ys ih =>
    rw [List.foldl_cons, ih]
    by_cases hy : y ∈ found <;> grind

/-- Nothing is lost with the repetitions. -/
@[simp] theorem mem_distinct {α : Type} [DecidableEq α] {xs : List α} {x : α} :
    x ∈ distinct xs ↔ x ∈ xs := by
  simp [distinct, mem_foldl_distinct]

theorem nodup_foldl_distinct {α : Type} [DecidableEq α] {xs found : List α} (once : found.Nodup) :
    (xs.foldl (fun found x => if x ∈ found then found else found ++ [x]) found).Nodup := by
  induction xs generalizing found with
  | nil => exact once
  | cons y ys ih =>
    rw [List.foldl_cons]
    by_cases hy : y ∈ found
    · rw [if_pos hy]
      exact ih once
    · rw [if_neg hy]
      refine ih (List.nodup_append.mpr ⟨once, List.pairwise_singleton _ y, ?_⟩)
      rintro x hx z hz rfl
      exact hy (List.mem_singleton.mp hz ▸ hx)

/-- Nothing is left twice. -/
theorem nodup_distinct {α : Type} [DecidableEq α] (xs : List α) : (distinct xs).Nodup :=
  nodup_foldl_distinct List.nodup_nil

/-- What a server announced. -/
structure Capabilities where
  /-- The name by which the server greets. -/
  hostname : String := ""
  /-- The extensions, in some order and without repetition. -/
  extensions : List Extension := []
deriving DecidableEq, Repr

namespace Capabilities

/-- The name in a greeting line: its first word, or nothing. -/
def greetedName (line : List Char) : String :=
  String.ofList ((Text.words line).head?.getD [])

/-- The table from the lines of an announcement: a greeting line, then one extension a line. -/
def ofAnnouncement (message : List String) : Capabilities where
  hostname := greetedName ((message.head?.map String.toList).getD [])
  extensions := distinct (message.tail.map Extension.parse)

/-- The extensions of an announcement are those of the lines behind the first. -/
theorem mem_ofAnnouncement {message : List String} {ext : Extension} :
    ext ∈ (ofAnnouncement message).extensions ↔
      ∃ line ∈ message.tail, Extension.parse line = ext := by
  rw [ofAnnouncement, mem_distinct, List.mem_map]

/-- The table that a reply announces. -/
def ofReply (reply : Reply) : Capabilities := ofAnnouncement reply.message

/-- A line of the text of a reply without its code and the mark after it. A line that does not
begin with a code and a mark is kept, and one that is only a code becomes empty. -/
def stripCode (line : List Char) : List Char :=
  let line := Text.dropEndWhile (· == '\r') line
  match parseLine? line with
  | some (_, _, text) => text
  | none => line

/-- The table that the text of a reply announces. Lines that are empty behind their code do not
count. -/
def parse (raw : String) : Capabilities :=
  let message := ((Text.lines raw.toList).map stripCode).filter fun line => !line.isEmpty
  ofAnnouncement (message.map String.ofList)

/-- The server announced an extension. -/
def supports (c : Capabilities) (ext : Extension) : Bool := c.extensions.contains ext

@[simp] theorem supports_iff {c : Capabilities} {ext : Extension} :
    c.supports ext = true ↔ ext ∈ c.extensions := by
  rw [supports, List.contains_iff_mem]

/-- The sizes that a list of extensions announces, in its order. -/
def sizesOf (extensions : List Extension) : List Nat :=
  extensions.filterMap fun
    | .size limit => limit
    | _ => none

@[simp] theorem mem_sizesOf {extensions : List Extension} {n : Nat} :
    n ∈ sizesOf extensions ↔ .size (some n) ∈ extensions := by
  rw [sizesOf, List.mem_filterMap]
  constructor
  · rintro ⟨ext, mem, gives⟩
    cases ext with
    | size limit => exact (show limit = some n from gives) ▸ mem
    | _ => exact absurd gives (by simp)
  · intro mem
    exact ⟨_, mem, rfl⟩

/-- The different sizes announced, in the order of the table. -/
def sizes (c : Capabilities) : List Nat := distinct (sizesOf c.extensions)

/-- The announced limit on the size of a message: the first in the order of the table. -/
def maxMessageSize? (c : Capabilities) : Option Nat := (sizesOf c.extensions).head?

/-- The mechanisms that a list of extensions announces, in its order. -/
def mechanismsOf (extensions : List Extension) : List AuthMechanism :=
  extensions.flatMap fun
    | .auth mechanisms => mechanisms
    | _ => []

@[simp] theorem mem_mechanismsOf {extensions : List Extension} {m : AuthMechanism} :
    m ∈ mechanismsOf extensions ↔ ∃ mechanisms, .auth mechanisms ∈ extensions ∧ m ∈ mechanisms := by
  rw [mechanismsOf, List.mem_flatMap]
  constructor
  · rintro ⟨ext, mem, among⟩
    cases ext with
    | auth mechanisms => exact ⟨mechanisms, mem, among⟩
    | _ => exact absurd among (by simp)
  · rintro ⟨mechanisms, mem, among⟩
    exact ⟨_, mem, among⟩

/-- The announced ways to authenticate, each once, in the order of the table. -/
def authMechanisms (c : Capabilities) : List AuthMechanism :=
  distinct (mechanismsOf c.extensions)

/-- The server announced a way to authenticate. -/
def supportsAuth (c : Capabilities) (m : AuthMechanism) : Bool := c.authMechanisms.contains m

@[simp] theorem mem_authMechanisms {c : Capabilities} {m : AuthMechanism} :
    m ∈ c.authMechanisms ↔ m ∈ mechanismsOf c.extensions := by
  rw [authMechanisms, mem_distinct]

@[simp] theorem supportsAuth_iff {c : Capabilities} {m : AuthMechanism} :
    c.supportsAuth m = true ↔ m ∈ mechanismsOf c.extensions := by
  rw [supportsAuth, List.contains_iff_mem, mem_authMechanisms]

/-- Two tables are equal: the same name and the same set of extensions. -/
def same (c d : Capabilities) : Bool :=
  c.hostname == d.hostname && c.extensions.all d.supports && d.extensions.all c.supports

/-- Two tables are equal if they hold the same name and the same extensions. -/
theorem same_iff {c d : Capabilities} : c.same d = true ↔
    c.hostname = d.hostname ∧ ∀ ext, ext ∈ c.extensions ↔ ext ∈ d.extensions := by
  rw [same, Bool.and_eq_true, Bool.and_eq_true, beq_iff_eq, List.all_eq_true, List.all_eq_true]
  simp only [supports_iff]
  constructor
  · rintro ⟨⟨name, there⟩, back⟩
    exact ⟨name, fun ext => ⟨there ext, back ext⟩⟩
  · rintro ⟨name, same⟩
    exact ⟨⟨name, fun ext => (same ext).mp⟩, fun ext => (same ext).mpr⟩

end Capabilities

end SmtpLink
