import DesignTokens.Json.Reader
import Mathlib.Data.List.Infix
import Mathlib.Data.List.TakeWhile

/-!
# What a JSON reader leaves and what it stumbles on

Every part of the reader leaves an end of the text it was given. That is why a refusal for too many
digits is about digits that really stand in the text, next to each other.
-/

namespace DesignTokens.Json

/-- A run of `count` digits stands in a text, which is more than are converted. -/
def LongRun (cs : List Char) (count : Nat) : Prop :=
  maxDigits < count ∧ ∃ ds, ds <:+: cs ∧ ds.length = count ∧ ∀ d ∈ ds, d.isDigit

theorem LongRun.mono {cs cs' : List Char} {count : Nat} (long : LongRun cs' count)
    (inside : cs' <:+ cs) : LongRun cs count := by
  obtain ⟨bound, ds, run, length, digits⟩ := long
  exact ⟨bound, ds, run.trans inside.isInfix, length, digits⟩

/-- What was read leaves an end of the text, and what was refused for its digits has them there. -/
def Within {α : Type} (cs : List Char) : Read α → Prop
  | .ok (_, rest) => rest <:+ cs
  | .error (.form _ _) => True
  | .error (.digits count) => LongRun cs count

namespace Within

variable {α β : Type} {cs cs' : List Char}

theorem mono {r : Read α} (within : Within cs' r) (inside : cs' <:+ cs) : Within cs r := by
  match r, within with
  | .ok _, within => exact List.IsSuffix.trans within inside
  | .error (.form _ _), _ => exact trivial
  | .error (.digits _), within => exact LongRun.mono within inside

theorem map {r : Read α} (within : Within cs r) (f : α → β) :
    Within cs (r.map fun p => (f p.1, p.2)) := by
  match r, within with
  | .ok _, within => exact within
  | .error (.form _ _), _ => exact trivial
  | .error (.digits _), within => exact within

theorem error {r : Read α} {e : Refusal} (within : Within cs r) (read : r = .error e) :
    Within cs (.error e : Read β) := by
  subst read
  cases e with
  | form cause rest => exact trivial
  | digits count => exact within

theorem ok {r : Read α} {a : α} {rest : List Char} (within : Within cs r)
    (read : r = .ok (a, rest)) : rest <:+ cs := by
  subst read
  exact within

end Within

theorem within_refuse {α : Type} (cs : List Char) (cause : Cause) (rest : List Char) :
    Within cs (refuse cause rest : Read α) := trivial

theorem skipSpace_suffix (cs : List Char) : skipSpace cs <:+ cs := List.dropWhile_suffix _

theorem codeUnit?_suffix {cs rest : List Char} {n : Nat} (read : codeUnit? cs = some (n, rest)) :
    rest <:+ cs := by
  unfold codeUnit? at read
  split at read
  · rename_i a b c d next rest'
    obtain ⟨m, -, h⟩ := Option.map_eq_some_iff.mp read
    obtain ⟨-, rfl⟩ := Prod.mk.inj h
    exact ⟨[a, b, c, d], rfl⟩
  · cases read

theorem within_escapedCodePoint (cs : List Char) : Within cs (escapedCodePoint cs) := by
  unfold escapedCodePoint
  split
  · exact within_refuse cs _ _
  · rename_i high rest hread
    have first : rest <:+ cs := (codeUnit?_suffix hread).trans (List.drop_suffix 1 cs)
    split
    · rename_i more
      split
      · split
        · exact within_refuse cs _ _
        · rename_i low after hmore
          split
          · have second : after <:+ '\\' :: 'u' :: more :=
              (codeUnit?_suffix hmore).trans (List.suffix_append ['\\', 'u'] more)
            exact second.trans first
          · exact first
      · exact first
    · exact first

theorem within_stringBody (whole : List Char) (fuel : Nat) (cs : List Char) (done : List Letter) :
    Within cs (stringBody whole fuel cs done) := by
  induction fuel generalizing cs done with
  | zero => exact within_refuse cs _ _
  | succ fuel ih =>
    unfold stringBody
    split
    · exact within_refuse [] _ _
    · exact List.suffix_cons _ _
    · rename_i rest
      split
      · exact within_refuse _ _ _
      · rename_i more
        have escape := (within_escapedCodePoint ('u' :: more)).mono
          (List.suffix_cons '\\' ('u' :: more))
        split
        · rename_i e hread
          exact escape.error hread
        · rename_i c after hread
          exact (ih after _).mono (escape.ok hread)
      · rename_i e after _
        split
        · exact within_refuse _ _ _
        · exact (ih after _).mono (List.suffix_append ['\\', e] after)
    · rename_i c rest _ _
      split
      · exact within_refuse _ _ _
      · exact (ih rest _).mono (List.suffix_cons c rest)

theorem within_string (rest : List Char) : Within rest (string rest) := by
  have body := within_stringBody ('"' :: rest) (rest.length + 1) rest []
  unfold string
  split
  · rename_i e hread
    exact body.error hread
  · rename_i cs after hread
    exact body.ok hread

theorem fraction_suffix (cs : List Char) : (fraction cs).2 <:+ cs := by
  unfold fraction
  split
  · rename_i d rest
    split
    · exact (List.dropWhile_suffix _).trans (List.suffix_cons '.' (d :: rest))
    · exact List.suffix_refl _
  · exact List.suffix_refl _

theorem exponent_suffix {cs rest : List Char} {n : Int} (read : exponent cs = some (n, rest)) :
    rest <:+ cs := by
  have digits {negative : Bool} {ds : List Char}
      (h : (if (ds.takeWhile Char.isDigit).isEmpty then none
        else some (if negative then -(decimal (ds.takeWhile Char.isDigit) : Int)
          else decimal (ds.takeWhile Char.isDigit), ds.dropWhile Char.isDigit)) = some (n, rest)) :
      rest <:+ ds := by
    split at h
    · cases h
    · rw [← (Prod.mk.inj (Option.some.inj h)).2]
      exact List.dropWhile_suffix _
  unfold exponent at read
  split at read
  · rename_i e tail
    split at read
    · dsimp only at read
      split at read
      · rename_i ds
        exact (digits read).trans (List.suffix_append [e, '-'] ds)
      · rename_i ds
        exact (digits read).trans (List.suffix_append [e, '+'] ds)
      · exact (digits read).trans (List.suffix_cons e tail)
    · cases read
  · cases read

/-- The whole part of a number is a zero or all digits that stand in front. -/
def wholePart (cs : List Char) : List Char :=
  match cs with
  | '0' :: _ => ['0']
  | _ => cs.takeWhile Char.isDigit

theorem wholePart_starts (cs : List Char) : wholePart cs <+: cs := by
  unfold wholePart
  split
  · rename_i rest
    exact ⟨rest, rfl⟩
  · exact List.takeWhile_prefix _

theorem isDigit_of_mem_wholePart {cs : List Char} {d : Char} (hd : d ∈ wholePart cs) :
    d.isDigit := by
  unfold wholePart at hd
  split at hd
  · rw [List.mem_singleton.mp hd]
    decide
  · exact List.mem_takeWhile_imp hd

theorem unsignedNumber_eq (negative : Bool) (whole cs : List Char) :
    unsignedNumber negative whole cs =
      if (wholePart cs).isEmpty then refuse .noValue whole
      else
        let (frac, afterFraction) := fraction (cs.drop (wholePart cs).length)
        let digits := decimal (wholePart cs ++ frac)
        match exponent afterFraction with
        | some (e, rest) => .ok (.float (.ofDecimal negative digits (e - frac.length)), rest)
        | none =>
          if frac.isEmpty then
            if maxDigits < (wholePart cs).length then .error (.digits (wholePart cs).length)
            else .ok (.int (if negative then -(digits : Int) else digits), afterFraction)
          else
            .ok (.float (.ofDecimal negative digits (-(frac.length : Int))), afterFraction) := rfl

theorem within_unsignedNumber (negative : Bool) (whole cs : List Char) :
    Within cs (unsignedNumber negative whole cs) := by
  have behind : (fraction (cs.drop (wholePart cs).length)).2 <:+ cs :=
    (fraction_suffix _).trans (List.drop_suffix _ cs)
  rw [unsignedNumber_eq]
  split
  · exact within_refuse cs _ _
  · dsimp only
    split
    · rename_i e rest hexp
      exact (exponent_suffix hexp).trans behind
    · split
      · split
        · rename_i long
          exact ⟨long, wholePart cs, (wholePart_starts cs).isInfix, rfl,
            fun d => isDigit_of_mem_wholePart⟩
        · exact behind
      · exact behind

theorem afterWord_suffix {word : String} {cs rest : List Char}
    (read : afterWord word cs = some rest) : rest <:+ cs := by
  unfold afterWord at read
  split at read
  · rw [← Option.some.inj read]
    exact List.drop_suffix _ cs
  · cases read

theorem word?_suffix {cs rest : List Char} {v : Value} (read : word? cs = some (v, rest)) :
    rest <:+ cs := by
  obtain ⟨w, -, hw⟩ := List.exists_of_findSome?_eq_some read
  obtain ⟨rest', hrest, h⟩ := Option.map_eq_some_iff.mp hw
  obtain ⟨-, rfl⟩ := Prod.mk.inj h
  exact afterWord_suffix hrest

theorem within_simple (cs : List Char) : Within cs (simple cs) := by
  unfold simple
  split
  · rename_i found hword
    exact word?_suffix hword
  · split
    · rename_i rest _
      exact ((within_unsignedNumber true _ rest).mono (List.suffix_cons '-' rest)).map Value.scalar
    · exact (within_unsignedNumber false cs cs).map Value.scalar

/-- The readers of values stay within their texts as far as some fuel goes. -/
structure ReadersWithin (fuel : Nat) : Prop where
  value : ∀ cs, Within cs (Json.value fuel cs)
  members : ∀ cs done, Within cs (Json.members fuel cs done)
  items : ∀ cs done, Within cs (Json.items fuel cs done)

namespace ReadersWithin

variable {fuel : Nat}

theorem value_succ (readers : ReadersWithin fuel) (cs : List Char) :
    Within cs (Json.value (fuel + 1) cs) := by
  unfold Json.value
  split
  · rename_i rest
    exact ((within_string rest).mono (List.suffix_cons '"' rest)).map Value.text
  · rename_i rest
    have inside := (skipSpace_suffix rest).trans (List.suffix_cons '\x7b' rest)
    split
    · rename_i after hstart
      rw [hstart] at inside
      exact (List.suffix_cons '\x7d' after).trans inside
    · exact ((readers.members _ []).mono inside).map Value.map
  · rename_i rest
    have inside := (skipSpace_suffix rest).trans (List.suffix_cons '[' rest)
    split
    · rename_i after hstart
      rw [hstart] at inside
      exact (List.suffix_cons ']' after).trans inside
    · exact ((readers.items _ []).mono inside).map Value.list
  · exact within_simple cs

theorem members_succ (readers : ReadersWithin fuel) (cs : List Char) (done : Entries) :
    Within cs (Json.members (fuel + 1) cs done) := by
  unfold Json.members
  split
  · rename_i rest
    have name := (within_string rest).mono (List.suffix_cons '"' rest)
    split
    · rename_i e hname
      exact name.error hname
    · rename_i text behind hname
      have colon := (skipSpace_suffix behind).trans (name.ok hname)
      split
      · rename_i tail hcolon
        rw [hcolon] at colon
        have start := (skipSpace_suffix tail).trans ((List.suffix_cons ':' tail).trans colon)
        have member := (readers.value (skipSpace tail)).mono start
        split
        · rename_i e hvalue
          exact member.error hvalue
        · rename_i v after hvalue
          have next := (skipSpace_suffix after).trans (member.ok hvalue)
          dsimp only
          split
          · rename_i last hlast
            rw [hlast] at next
            exact (List.suffix_cons '\x7d' last).trans next
          · rename_i more hmore
            rw [hmore] at next
            exact (readers.members _ _).mono
              ((skipSpace_suffix more).trans ((List.suffix_cons ',' more).trans next))
          · exact within_refuse _ _ _
      · exact within_refuse _ _ _
  · exact within_refuse _ _ _

theorem items_succ (readers : ReadersWithin fuel) (cs : List Char) (done : List Value) :
    Within cs (Json.items (fuel + 1) cs done) := by
  unfold Json.items
  have item := readers.value cs
  split
  · rename_i e hvalue
    exact item.error hvalue
  · rename_i v after hvalue
    have next := (skipSpace_suffix after).trans (item.ok hvalue)
    split
    · rename_i last hlast
      rw [hlast] at next
      exact (List.suffix_cons ']' last).trans next
    · rename_i more hmore
      rw [hmore] at next
      exact (readers.items _ _).mono
        ((skipSpace_suffix more).trans ((List.suffix_cons ',' more).trans next))
    · exact within_refuse _ _ _

end ReadersWithin

/-- The readers stay within their texts, by induction on the fuel that they share. -/
theorem readersWithin (fuel : Nat) : ReadersWithin fuel := by
  induction fuel with
  | zero => exact ⟨fun cs => within_refuse cs _ _, fun cs _ => within_refuse cs _ _,
      fun cs _ => within_refuse cs _ _⟩
  | succ fuel ih => exact ⟨ih.value_succ, ih.members_succ, ih.items_succ⟩

/-- A text is refused for its digits only if it has a run of too many. -/
theorem longRun_of_parse {cs : List Char} {count : Nat}
    (refused : parse cs = .error (.digits count)) : LongRun cs count := by
  have short : text cs = .error (.digits count) := by
    unfold parse at refused
    split at refused
    · cases refused
    · cases refused
    · rename_i n htext
      cases refused
      exact htext
  unfold text at short
  split at short
  · cases short
  · have read := ((readersWithin (2 * cs.length + 2)).value (skipSpace cs)).mono (skipSpace_suffix cs)
    split at short
    · rename_i e hvalue
      cases short
      exact read.error (β := Value) hvalue
    · split at short <;> cases short

theorem exists_of_map {α β : Type} {r : Read α} {f : α → β} {b : β} {rest : List Char}
    (read : (r.map fun p => (f p.1, p.2)) = .ok (b, rest)) : ∃ a, r = .ok (a, rest) ∧ f a = b := by
  cases r with
  | error e => cases read
  | ok p =>
    cases read
    exact ⟨p.1, rfl, rfl⟩

/-- What a value that was read starts with, and what of it was left to the other readers. -/
inductive ValueRead (fuel : Nat) : List Char → Value → List Char → Prop
  | string {cs rest : List Char} {s : Text} (inside : Json.string cs = .ok (s, rest)) :
      ValueRead fuel ('"' :: cs) (.text s) rest
  | emptyMap {cs rest : List Char} (closed : skipSpace cs = '\x7d' :: rest) :
      ValueRead fuel ('\x7b' :: cs) (.map []) rest
  | map {cs rest : List Char} {es : Entries}
      (inside : members fuel (skipSpace cs) [] = .ok (es, rest)) :
      ValueRead fuel ('\x7b' :: cs) (.map es) rest
  | emptyList {cs rest : List Char} (closed : skipSpace cs = ']' :: rest) :
      ValueRead fuel ('[' :: cs) (.list []) rest
  | list {cs rest : List Char} {vs : List Value}
      (inside : items fuel (skipSpace cs) [] = .ok (vs, rest)) :
      ValueRead fuel ('[' :: cs) (.list vs) rest
  | simple {cs rest : List Char} {v : Value} (found : Json.simple cs = .ok (v, rest)) :
      ValueRead fuel cs v rest

/-- A member behind the quote of its name: the name, the colon and the value. -/
def MemberRead (fuel : Nat) (inner : List Char) (name : Text) (v : Value) (after : List Char) :
    Prop :=
  ∃ behind tail, string inner = .ok (name, behind) ∧ skipSpace behind = ':' :: tail ∧
    value fuel (skipSpace tail) = .ok (v, after)

/-- Members that were read: one, and then the closing brace or a comma and others. -/
inductive MembersRead (fuel : Nat) (done : Entries) : List Char → Entries → List Char → Prop
  | last {inner after rest : List Char} {name : Text} {v : Value}
      (member : MemberRead fuel inner name v after) (closed : skipSpace after = '\x7d' :: rest) :
      MembersRead fuel done ('"' :: inner) (done.put (.text name) v) rest
  | more {inner after next rest : List Char} {name : Text} {v : Value} {es : Entries}
      (member : MemberRead fuel inner name v after) (comma : skipSpace after = ',' :: next)
      (others : members fuel (skipSpace next) (done.put (.text name) v) = .ok (es, rest)) :
      MembersRead fuel done ('"' :: inner) es rest

/-- Items that were read: one, and then the closing bracket or a comma and others. -/
inductive ItemsRead (fuel : Nat) (done : List Value) : List Char → List Value → List Char → Prop
  | last {cs after rest : List Char} {v : Value} (item : value fuel cs = .ok (v, after))
      (closed : skipSpace after = ']' :: rest) : ItemsRead fuel done cs (v :: done).reverse rest
  | more {cs after next rest : List Char} {v : Value} {vs : List Value}
      (item : value fuel cs = .ok (v, after)) (comma : skipSpace after = ',' :: next)
      (others : items fuel (skipSpace next) (v :: done) = .ok (vs, rest)) :
      ItemsRead fuel done cs vs rest

section Readers

variable {fuel : Nat} {cs rest : List Char}

theorem valueRead {v : Value} (read : value (fuel + 1) cs = .ok (v, rest)) :
    ValueRead fuel cs v rest := by
  unfold value at read
  split at read
  · obtain ⟨s, inside, rfl⟩ := exists_of_map read
    exact .string inside
  · split at read
    · rename_i closed
      cases read
      exact .emptyMap closed
    · obtain ⟨es, inside, rfl⟩ := exists_of_map read
      exact .map inside
  · split at read
    · rename_i closed
      cases read
      exact .emptyList closed
    · obtain ⟨vs, inside, rfl⟩ := exists_of_map read
      exact .list inside
  · exact .simple read

theorem membersRead {done es : Entries} (read : members (fuel + 1) cs done = .ok (es, rest)) :
    MembersRead fuel done cs es rest := by
  unfold members at read
  split at read
  · split at read
    · cases read
    · rename_i named
      split at read
      · rename_i colon
        split at read
        · cases read
        · rename_i member
          have whole : MemberRead _ _ _ _ _ := ⟨_, _, named, colon, member⟩
          dsimp only at read
          split at read
          · rename_i closed
            cases read
            exact .last whole closed
          · rename_i comma
            exact .more whole comma read
          · cases read
      · cases read
  · cases read

theorem itemsRead {done vs : List Value} (read : items (fuel + 1) cs done = .ok (vs, rest)) :
    ItemsRead fuel done cs vs rest := by
  unfold items at read
  split at read
  · cases read
  · rename_i item
    split at read
    · rename_i closed
      cases read
      exact .last item closed
    · rename_i comma
      exact .more item comma read
    · cases read

end Readers

/-- A text that was read is one value with space around it. -/
theorem valueRead_of_parse {cs : List Char} {v : Value} (read : parse cs = .ok v) :
    ∃ rest, value (2 * cs.length + 2) (skipSpace cs) = .ok (v, rest) ∧ skipSpace rest = [] := by
  have whole : text cs = .ok v := by
    unfold parse at read
    split at read
    · rename_i found
      cases read
      exact found
    · cases read
    · cases read
  unfold text at whole
  split at whole
  · cases whole
  · split at whole
    · cases whole
    · rename_i rest found
      split at whole
      · rename_i ended
        cases whole
        exact ⟨rest, found, ended⟩
      · cases whole

end DesignTokens.Json
