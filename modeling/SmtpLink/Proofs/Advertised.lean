import Mathlib.Algebra.Group.Nat.Defs
import SmtpLink.Capabilities
import SmtpLink.Proofs.Words

/-!
# What a server advertised

What the table of capabilities says is compared with the lines of the announcement themselves: a
line *offers* a keyword, with an argument behind an equals sign or with words that come later.  The
table holds a set, so what it says must not depend on the order in which the set is gone through.

## Main definitions

* `Offers` — a line offers a keyword.
* `NamesMechanism`, `GivesSize` — what a line says about authentication and about sizes.
* `Extension.keyword?`, `Extension.Takes` — the keyword of an extension, and what it takes from the
  rest of its line.

## Main results

* `Extension.parse_eq_iff` — **a line announces an extension exactly if it offers its keyword.**
* `Capabilities.queries_exact` — **the table says exactly what was advertised**, in whatever order
  the set is gone through.
-/

namespace SmtpLink

/-- A line offers a keyword: its first word, up to the first equals sign if there is one, is the
keyword in any ASCII case.  Behind the sign stands the argument, and the other words come later. -/
inductive Offers (line keyword : String) (argument : Option (List Char))
    (later : List (List Char)) : Prop
  | intro (name : List Char)
      (words : Text.HasWords line.toList
        ((name ++ (argument.map ('=' :: ·)).getD []) :: later))
      (noSign : '=' ∉ name) (same : Text.asciiUpper name = keyword.toList)

/-- A line names a mechanism in an offer of authentication, right behind the equals sign or in a
later word, in any ASCII case. -/
def NamesMechanism (line : String) (m : AuthMechanism) : Prop :=
  ∃ argument later word, Offers line "AUTH" argument later ∧
    (argument = some word ∨ word ∈ later) ∧ Text.asciiUpper word = m.name.toList

/-- A line gives a size: the argument of its offer, and else the next word, is a numeral below
`2 ^ 64`. -/
def GivesSize (line : String) (n : Nat) : Prop :=
  ∃ argument later word, Offers line "SIZE" argument later ∧
    (argument = some word ∨ argument = none ∧ later.head? = some word) ∧
    Text.IsNumeral word n ∧ n < 2 ^ 64

/-- Some line behind the greeting offers a keyword. -/
def Reply.Advertises (r : Reply) (keyword : String) : Prop :=
  ∃ line ∈ r.message.tail, ∃ argument later, Offers line keyword argument later

/-- A mechanism is found exactly by its name, in any ASCII case. -/
theorem AuthMechanism.ofChars?_eq_some_iff {text : List Char} {m : AuthMechanism} :
    ofChars? text = some m ↔ Text.asciiUpper text = m.name.toList := by
  constructor
  · intro found
    rw [ofChars?] at found
    have named := List.find?_some found
    exact (beq_iff_eq.mp named).symm
  · intro same
    rw [ofChars?, same]
    cases m <;> rfl

namespace Extension

/-- The keyword of an extension, if it is known. -/
def keyword? : Extension → Option String
  | .startTls => some "STARTTLS"
  | .auth _ => some "AUTH"
  | .size _ => some "SIZE"
  | .eightBitMime => some "8BITMIME"
  | .pipelining => some "PIPELINING"
  | .enhancedStatusCodes => some "ENHANCEDSTATUSCODES"
  | .smtpUtf8 => some "SMTPUTF8"
  | .dsn => some "DSN"
  | .unknown _ => none

/-- What an extension takes from the argument and the later words of its line. -/
def Takes (argument : Option (List Char)) (later : List (List Char)) : Extension → Prop
  | .auth mechanisms =>
    mechanisms = (argument.toList ++ later).filterMap AuthMechanism.ofChars?
  | .size limit => limit = (argument <|> later.head?).bind (Text.numeral? sizeBound)
  | _ => True

variable {line keyword : String} {ext : Extension}

/-- An extension is known exactly by its keyword, and takes what stands behind it. -/
theorem ofKeyword?_eq_some_iff {name : List Char} {argument : Option (List Char)}
    {later : List (List Char)} : ofKeyword? name argument later = some ext ↔
      ext.keyword? = some (String.ofList name) ∧ ext.Takes argument later := by
  constructor
  · intro known
    unfold ofKeyword? at known
    split at known
    case h_9 => exact absurd known (by simp)
    all_goals
      next is =>
        obtain rfl := Option.some.inj known
        exact ⟨congrArg some is.symm, by trivial⟩
  · rintro ⟨is, takes⟩
    cases ext with
    | unknown line => exact absurd is (by simp [keyword?])
    | auth mechanisms =>
      rw [ofKeyword?, ← Option.some.inj is, takes]
      rfl
    | size limit =>
      rw [ofKeyword?, ← Option.some.inj is, takes]
      rfl
    | _ =>
      rw [ofKeyword?, ← Option.some.inj is]
      rfl

/-- **A line announces an extension exactly if it offers its keyword**, and the extension takes what
stands behind that. -/
theorem parse_eq_iff (known : ext.keyword? = some keyword) : parse line = ext ↔
    ∃ argument later, Offers line keyword argument later ∧ ext.Takes argument later := by
  have notUnknown (text : String) : .unknown text ≠ ext := by
    rintro rfl
    exact absurd known (by simp [keyword?])
  rw [parse, Text.words_trim]
  dsimp only
  constructor
  · intro announces
    cases found : Text.words line.toList with
    | nil =>
      rw [found] at announces
      exact absurd announces (notUnknown _)
    | cons first later =>
      rw [found] at announces
      dsimp only at announces
      cases cut : Text.cutAt '=' first with
      | mk name argument =>
        rw [cut] at announces
        dsimp only at announces
        obtain ⟨noSign, whole⟩ := Text.cutAt_eq_iff.mp cut
        cases made : ofKeyword? (Text.asciiUpper name) argument later with
        | none =>
          rw [made] at announces
          exact absurd announces (notUnknown _)
        | some own =>
          rw [made] at announces
          obtain rfl : own = ext := announces
          obtain ⟨is, takes⟩ := ofKeyword?_eq_some_iff.mp made
          refine ⟨argument, later, .intro name ?_ noSign ?_, takes⟩
          · rw [Text.hasWords_iff, found, whole]
          · rw [known] at is
            rw [Option.some.inj is, String.toList_ofList]
  · rintro ⟨argument, later, ⟨name, words, noSign, same⟩, takes⟩
    have made : ofKeyword? (Text.asciiUpper name) argument later = some ext := by
      refine ofKeyword?_eq_some_iff.mpr ⟨?_, takes⟩
      rw [known, same, String.ofList_toList]
    have cut : Text.cutAt '=' (name ++ (argument.map ('=' :: ·)).getD []) = (name, argument) :=
      Text.cutAt_eq_iff.mpr ⟨noSign, rfl⟩
    rw [Text.hasWords_iff.mp words]
    dsimp only
    rw [cut]
    dsimp only
    rw [made]
    rfl

/-- A line announces a size exactly if it gives one. -/
theorem parse_eq_size_iff {n : Nat} : parse line = .size (some n) ↔ GivesSize line n := by
  have known : (size (some n)).keyword? = some "SIZE" := rfl
  rw [parse_eq_iff known]
  constructor
  · rintro ⟨argument, later, offers, takes⟩
    obtain ⟨word, at', read⟩ := Option.bind_eq_some_iff.mp takes.symm
    obtain ⟨numeral, below⟩ := Text.numeral?_eq_some_iff.mp read
    refine ⟨argument, later, word, offers, ?_, numeral, below⟩
    cases argument with
    | none => exact .inr ⟨rfl, at'⟩
    | some own => exact .inl at'
  · rintro ⟨argument, later, word, offers, place, numeral, below⟩
    have read : Text.numeral? sizeBound word = some n :=
      Text.numeral?_eq_some_iff.mpr ⟨numeral, below⟩
    refine ⟨argument, later, offers, ?_⟩
    rcases place with rfl | ⟨rfl, first⟩
    · exact read.symm
    · show some n = later.head?.bind (Text.numeral? sizeBound)
      rw [first]
      exact read.symm

/-- A line announces a mechanism exactly if it names it. -/
theorem mem_auth_iff {m : AuthMechanism} :
    (∃ mechanisms, parse line = .auth mechanisms ∧ m ∈ mechanisms) ↔ NamesMechanism line m := by
  have known (mechanisms : List AuthMechanism) :
      (auth mechanisms).keyword? = some "AUTH" := rfl
  have among (argument : Option (List Char)) (later : List (List Char)) :
      m ∈ (argument.toList ++ later).filterMap AuthMechanism.ofChars? ↔
        ∃ word, (argument = some word ∨ word ∈ later) ∧ Text.asciiUpper word = m.name.toList := by
    rw [List.mem_filterMap]
    simp only [List.mem_append, Option.mem_toList, AuthMechanism.ofChars?_eq_some_iff]
  constructor
  · rintro ⟨mechanisms, announces, mem⟩
    obtain ⟨argument, later, offers, takes⟩ := (parse_eq_iff (known mechanisms)).mp announces
    obtain rfl : mechanisms = _ := takes
    obtain ⟨word, place, named⟩ := (among argument later).mp mem
    exact ⟨argument, later, word, offers, place, named⟩
  · rintro ⟨argument, later, word, offers, place, named⟩
    refine ⟨_, (parse_eq_iff (known _)).mpr ⟨argument, later, offers, rfl⟩, ?_⟩
    exact (among argument later).mpr ⟨word, place, named⟩

end Extension

namespace Capabilities

variable {r : Reply} {c : Capabilities}

/-- A table in any order holds what the lines behind the greeting announce. -/
theorem mem_of_order (order : c.extensions.Perm (ofReply r).extensions) {ext : Extension} :
    ext ∈ c.extensions ↔ ∃ line ∈ r.message.tail, Extension.parse line = ext := by
  rw [order.mem_iff, ofReply, mem_ofAnnouncement]

/-- An extension that takes nothing is supported exactly if its keyword is advertised. -/
theorem supports_iff_advertises (order : c.extensions.Perm (ofReply r).extensions)
    {ext : Extension} {keyword : String} (known : ext.keyword? = some keyword)
    (bare : ∀ argument later, ext.Takes argument later) :
    c.supports ext = true ↔ r.Advertises keyword := by
  rw [supports_iff, mem_of_order order, Reply.Advertises]
  refine exists_congr fun line => and_congr_right fun _ => ?_
  rw [Extension.parse_eq_iff known]
  refine exists_congr fun argument => exists_congr fun later => ?_
  exact and_iff_left (bare argument later)

theorem mem_mechanismsOf_order (order : c.extensions.Perm (ofReply r).extensions)
    {m : AuthMechanism} :
    m ∈ mechanismsOf c.extensions ↔ ∃ line ∈ r.message.tail, NamesMechanism line m := by
  rw [mem_mechanismsOf]
  simp only [mem_of_order order, ← Extension.mem_auth_iff]
  constructor
  · rintro ⟨mechanisms, ⟨line, mem, announces⟩, among⟩
    exact ⟨line, mem, mechanisms, announces, among⟩
  · rintro ⟨line, mem, mechanisms, announces, among⟩
    exact ⟨mechanisms, ⟨line, mem, announces⟩, among⟩

theorem mem_sizesOf_order (order : c.extensions.Perm (ofReply r).extensions) {n : Nat} :
    n ∈ sizesOf c.extensions ↔ ∃ line ∈ r.message.tail, GivesSize line n := by
  rw [mem_sizesOf, mem_of_order order]
  simp only [Extension.parse_eq_size_iff]

/-- The first of equal members is what they all are. -/
theorem head?_eq_some_of_forall_eq {α : Type} {xs : List α} {x : α} (mem : x ∈ xs)
    (only : ∀ y ∈ xs, y = x) : xs.head? = some x := by
  cases xs with
  | nil => exact absurd mem List.not_mem_nil
  | cons y ys => exact congrArg some (only y List.mem_cons_self)

/-- **The table says exactly what was advertised**, in whatever order the set of extensions is gone
through. -/
theorem queries_exact (order : c.extensions.Perm (ofReply r).extensions) :
    ((c.supports .startTls = true ↔ r.Advertises "STARTTLS") ∧
      (c.supports .pipelining = true ↔ r.Advertises "PIPELINING") ∧
      (c.supports .enhancedStatusCodes = true ↔ r.Advertises "ENHANCEDSTATUSCODES") ∧
      (c.supports .eightBitMime = true ↔ r.Advertises "8BITMIME")) ∧
    (∀ m, c.supportsAuth m = true ↔ ∃ line ∈ r.message.tail, NamesMechanism line m) ∧
    (∀ m, m ∈ c.authMechanisms ↔ ∃ line ∈ r.message.tail, NamesMechanism line m) ∧
    c.authMechanisms.Nodup ∧
    (∀ n, (∃ line ∈ r.message.tail, GivesSize line n) →
      (∀ line ∈ r.message.tail, ∀ k, GivesSize line k → k = n) → c.maxMessageSize? = some n) ∧
    (∀ n, c.maxMessageSize? = some n → ∃ line ∈ r.message.tail, GivesSize line n) ∧
    ((∀ line ∈ r.message.tail, ∀ n, ¬ GivesSize line n) → c.maxMessageSize? = none) := by
  refine ⟨⟨?_, ?_, ?_, ?_⟩, fun m => ?_, fun m => ?_, nodup_distinct _, fun n gives only => ?_,
    fun n first => ?_, fun none => ?_⟩
  · exact supports_iff_advertises order rfl fun _ _ => trivial
  · exact supports_iff_advertises order rfl fun _ _ => trivial
  · exact supports_iff_advertises order rfl fun _ _ => trivial
  · exact supports_iff_advertises order rfl fun _ _ => trivial
  · rw [supportsAuth_iff, mem_mechanismsOf_order order]
  · rw [mem_authMechanisms, mem_mechanismsOf_order order]
  · refine head?_eq_some_of_forall_eq ((mem_sizesOf_order order).mpr gives) fun k mem => ?_
    obtain ⟨line, among, givesToo⟩ := (mem_sizesOf_order order).mp mem
    exact only line among k givesToo
  · exact (mem_sizesOf_order order).mp (List.mem_of_head? first)
  · rw [maxMessageSize?, List.head?_eq_none_iff, List.eq_nil_iff_forall_not_mem]
    intro k mem
    obtain ⟨line, among, gives⟩ := (mem_sizesOf_order order).mp mem
    exact none line among k gives

/-- An announcement with a size after a blank, and with mechanisms behind an equals sign. -/
def sizeAndAuth : Reply := ⟨⟨250⟩, ["mail", "SIZE +1000 x", "auth=login\tPlain"]⟩

/-- The table of that announcement, turned round. -/
def turnedRound : Capabilities := ⟨"mail", [.auth [.login, .plain], .size (some 1000)]⟩

/-- Turned round, the table says the same. -/
theorem turned_round_exact : turnedRound.supportsAuth .plain = true ∧
    turnedRound.authMechanisms.Nodup ∧ turnedRound.maxMessageSize? = some 1000 := by
  have order : turnedRound.extensions.Perm (ofReply sizeAndAuth).extensions := by decide
  obtain ⟨-, supports, -, once, size, -⟩ := queries_exact order
  have lines : ∀ line ∈ sizeAndAuth.message.tail, ∀ k,
      Extension.parse line = .size (some k) → k = 1000 := by
    refine List.forall_mem_cons.mpr ⟨fun k gives => ?_, List.forall_mem_singleton.mpr ?_⟩
    · have found : Extension.parse "SIZE +1000 x" = .size (some 1000) := by decide
      exact (Option.some.inj (Extension.size.inj (found.symm.trans gives))).symm
    · intro k gives
      have found : Extension.parse "auth=login\tPlain" = .auth [.login, .plain] := by decide
      exact absurd (found.symm.trans gives) (by simp)
  refine ⟨(supports .plain).mpr ?_, once, size 1000 ?_ fun line mem k gives => ?_⟩
  · refine ⟨"auth=login\tPlain", by decide, ?_⟩
    exact Extension.mem_auth_iff.mp ⟨[.login, .plain], by decide, by decide⟩
  · refine ⟨"SIZE +1000 x", by decide, ?_⟩
    exact Extension.parse_eq_size_iff.mp (by decide)
  · exact lines line mem k (Extension.parse_eq_size_iff.mpr gives)

end Capabilities

end SmtpLink
