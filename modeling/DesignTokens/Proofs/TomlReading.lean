import DesignTokens.Toml.Document
import Mathlib.Data.List.Infix
import Mathlib.Data.List.TakeWhile

/-!
# What a TOML reader leaves and what it stumbles on

Every part of the reader leaves an end of the text it was given. That is why a refusal for too many
digits is about digits that really stand in the text, with nothing but single lines between them.
-/

namespace DesignTokens.Toml

/-- A run of digits and lines with `count` digits in it stands in a text, which is more than are
converted. -/
def LongRun (cs : List Char) (count : Nat) : Prop :=
  maxDigits < count ∧ ∃ run, run <:+: cs ∧ (run.filter Char.isDigit).length = count ∧
    ∀ c ∈ run, c.isDigit ∨ c = '_'

theorem LongRun.mono {cs cs' : List Char} {count : Nat} (long : LongRun cs' count)
    (inside : cs' <:+ cs) : LongRun cs count := by
  obtain ⟨bound, run, inner, length, chars⟩ := long
  exact ⟨bound, run, inner.trans inside.isInfix, length, chars⟩

/-- What was read leaves an end of the text, and what was refused for its digits has them there. -/
def Within {α : Type} (left : α → List Char) (cs : List Char) : Except Fault α → Prop
  | .ok a => left a <:+ cs
  | .error .malformed => True
  | .error (.digits count) => LongRun cs count

namespace Within

variable {α β : Type} {left : α → List Char} {left' : β → List Char} {cs cs' : List Char}

theorem mono {r : Except Fault α} (within : Within left cs' r) (inside : cs' <:+ cs) :
    Within left cs r := by
  match r, within with
  | .ok _, within => exact List.IsSuffix.trans within inside
  | .error .malformed, _ => exact trivial
  | .error (.digits _), within => exact LongRun.mono within inside

/-- A reader that goes on with what another one has left. -/
theorem bind {r : Except Fault α} {next : α → Except Fault β} (within : Within left cs r)
    (goesOn : ∀ a, Within left' (left a) (next a)) : Within left' cs (r >>= next) := by
  match r, within with
  | .ok a, within => exact (goesOn a).mono within
  | .error .malformed, _ => exact trivial
  | .error (.digits _), within => exact within

theorem malformed : Within left cs Toml.malformed := trivial

end Within

theorem skipBlanks_suffix (cs : List Char) : skipBlanks cs <:+ cs := List.dropWhile_suffix _

theorem within_upTo (delimiter : List Char) (forbidden : Char → Bool) (cs : List Char) :
    Within Prod.snd cs (upTo delimiter forbidden cs) := by
  induction cs with
  | nil => exact .malformed
  | cons c rest ih =>
    unfold upTo
    split
    · exact List.drop_suffix _ _
    · split
      · exact .malformed
      · refine (ih.mono (List.suffix_cons c rest)).bind fun found => ?_
        exact List.suffix_refl _

theorem within_codePoint (width : Nat) (cs : List Char) :
    Within Prod.snd cs (codePoint width cs) := by
  unfold codePoint
  dsimp only
  split
  · exact .malformed
  · split
    · exact .malformed
    · exact List.drop_suffix width cs

theorem within_escape (lines : Bool) (cs : List Char) : Within Prod.snd cs (escape lines cs) := by
  unfold escape
  split
  · exact .malformed
  · rename_i c rest
    split
    · have blanks := skipBlanks_suffix (c :: rest)
      split
      · exact List.nil_suffix
      · rename_i after behind
        rw [behind] at blanks
        exact (List.dropWhile_suffix _).trans ((List.suffix_cons '\n' after).trans blanks)
      · exact .malformed
    · split
      · exact (within_codePoint 4 rest).mono (List.suffix_cons c rest)
      · split
        · exact (within_codePoint 8 rest).mono (List.suffix_cons c rest)
        · split
          · exact List.suffix_cons c rest
          · exact .malformed

theorem within_basicBody (lines : Bool) (fuel : Nat) (cs : List Char) :
    Within Prod.snd cs (basicBody lines fuel cs) := by
  induction fuel generalizing cs with
  | zero => exact .malformed
  | succ fuel ih =>
    unfold basicBody
    split
    · exact .malformed
    · rename_i c rest
      split
      · cases lines with
        | true => exact (List.drop_suffix 2 rest).trans (List.suffix_cons c rest)
        | false => exact List.suffix_cons c rest
      · split
        · refine ((within_escape lines rest).mono (List.suffix_cons c rest)).bind fun escaped => ?_
          exact (ih escaped.2).bind fun more => List.suffix_refl _
        · by_cases barred : (if lines then isControlInLines c else isControl c) = true
          · rw [if_pos barred]
            exact .malformed
          · rw [if_neg barred]
            refine ((ih rest).mono (List.suffix_cons c rest)).bind fun more => ?_
            exact List.suffix_refl _

theorem within_basicString (cs : List Char) : Within Prod.snd cs (basicString cs) :=
  (within_basicBody false _ _).mono (List.drop_suffix 1 cs)

theorem within_literalString (cs : List Char) : Within Prod.snd cs (literalString cs) :=
  (within_upTo _ _ _).mono (List.drop_suffix 1 cs)

theorem within_linesString (mark : Char) (cs : List Char) :
    Within Prod.snd cs (linesString mark cs) := by
  have opened :
      (if (cs.drop 3).head? = some '\n' then (cs.drop 3).drop 1 else cs.drop 3) <:+ cs := by
    split
    · exact (List.drop_suffix 1 _).trans (List.drop_suffix 3 cs)
    · exact List.drop_suffix 3 cs
  unfold linesString
  dsimp only
  split
  · exact ((within_basicBody true _ _).mono opened).bind fun body => List.drop_suffix _ body.2
  · exact ((within_upTo _ _ _).mono opened).bind fun body => List.drop_suffix _ body.2

theorem within_string (cs : List Char) : Within Prod.snd cs (string cs) := by
  unfold string
  split
  · split
    · exact within_linesString _ _
    · split
      · exact within_basicString _
      · exact within_literalString _
  · exact .malformed

theorem within_keyPart (cs : List Char) : Within Prod.snd cs (keyPart cs) := by
  unfold keyPart
  split
  · exact (within_basicString _).bind fun text => List.suffix_refl _
  · exact (within_literalString _).bind fun text => List.suffix_refl _
  · dsimp only
    split
    · exact .malformed
    · exact List.dropWhile_suffix _

theorem within_keyParts (fuel : Nat) (cs : List Char) : Within Prod.snd cs (keyParts fuel cs) := by
  induction fuel generalizing cs with
  | zero => exact .malformed
  | succ fuel ih =>
    unfold keyParts
    refine (within_keyPart cs).bind fun part => ?_
    have blanks := skipBlanks_suffix part.2
    dsimp only
    split
    · rename_i rest behind
      rw [behind] at blanks
      have dotted := (skipBlanks_suffix rest).trans ((List.suffix_cons '.' rest).trans blanks)
      exact ((ih _).mono dotted).bind fun more => List.suffix_refl _
    · exact blanks

theorem within_key (cs : List Char) : Within Prod.snd cs (key cs) := within_keyParts _ cs

theorem within_assigned (cs : List Char) : Within Prod.snd cs (assigned cs) := by
  unfold assigned
  refine (within_key cs).bind fun path => ?_
  dsimp only
  split
  · rename_i rest behind
    rw [behind]
    exact (skipBlanks_suffix rest).trans (List.suffix_cons '=' rest)
  · exact .malformed

/-- The digits that are read are those of a run of digits and lines. -/
theorem moreDigits_run {p : Char → Bool} (line : p '_' = false) (cs : List Char) :
    ∃ run, cs = run ++ (moreDigits p cs).2 ∧ (moreDigits p cs).1 = run.filter p ∧
      ∀ c ∈ run, p c ∨ c = '_' := by
  fun_induction moreDigits p cs with
  | case1 => exact ⟨[], rfl, rfl, by simp⟩
  | case2 c rest digit ds after read ih =>
    obtain ⟨run, split, taken, chars⟩ := ih
    rw [read] at split taken
    refine ⟨'_' :: c :: run, by rw [split]; rfl, ?_, ?_⟩
    · simp [line, digit, ← taken]
    · simpa [digit] using chars
  | case3 c rest digit => exact ⟨[], rfl, rfl, by simp⟩
  | case4 c rest _ digit ds after read ih =>
    obtain ⟨run, split, taken, chars⟩ := ih
    rw [read] at split taken
    refine ⟨c :: run, by rw [split]; rfl, ?_, ?_⟩
    · simp [digit, ← taken]
    · simpa [digit] using chars
  | case5 c rest _ digit => exact ⟨[], rfl, rfl, by simp⟩

theorem digits_run {p : Char → Bool} (line : p '_' = false) {cs ds rest : List Char}
    (read : digits p cs = some (ds, rest)) :
    ∃ run, cs = run ++ rest ∧ ds = run.filter p ∧ ∀ c ∈ run, p c ∨ c = '_' := by
  unfold digits at read
  split at read
  · rename_i c more
    split at read
    · rename_i digit
      obtain ⟨run, split, taken, chars⟩ := moreDigits_run line more
      cases read
      refine ⟨c :: run, congrArg (c :: ·) split, ?_, ?_⟩
      · rw [List.filter_cons_of_pos digit, ← taken]
      · simpa [digit] using chars
    · cases read
  · cases read

theorem digits_suffix {p : Char → Bool} (line : p '_' = false) {cs ds rest : List Char}
    (read : digits p cs = some (ds, rest)) : rest <:+ cs := by
  obtain ⟨run, split, -⟩ := digits_run line read
  exact ⟨run, split.symm⟩

theorem signed_suffix (cs : List Char) : (Literal.signed cs).2 <:+ cs := by
  unfold Literal.signed
  split
  · exact List.suffix_cons _ _
  · exact List.suffix_cons _ _
  · exact List.suffix_refl _

theorem marked_suffix {cs rest : List Char} {n : Int} (read : marked cs = some (n, rest)) :
    rest <:+ cs := by
  have line (base : Nat) : ((Literal.baseDigit? base '_').isSome && '_'.toNat < 128) = false := by
    have none : (Text.digit? '_').or (Literal.letterValue? '_') = none := by decide
    rw [Literal.baseDigit?, none]
    rfl
  unfold marked at read
  dsimp only at read
  split at read
  · obtain ⟨d, taken, same⟩ := Option.map_eq_some_iff.mp read
    cases same
    exact (digits_suffix (line 16) taken).trans (List.suffix_append ['0', 'x'] _)
  · obtain ⟨d, taken, same⟩ := Option.map_eq_some_iff.mp read
    cases same
    exact (digits_suffix (line 2) taken).trans (List.suffix_append ['0', 'b'] _)
  · obtain ⟨d, taken, same⟩ := Option.map_eq_some_iff.mp read
    cases same
    exact (digits_suffix (line 8) taken).trans (List.suffix_append ['0', 'o'] _)
  · cases read

theorem fraction_suffix (cs : List Char) : (fraction cs).2 <:+ cs := by
  unfold fraction
  split
  · rename_i rest
    cases read : digits Char.isDigit rest with
    | none => exact List.suffix_refl _
    | some d => exact (digits_suffix (by decide) read).trans (List.suffix_cons '.' rest)
  · exact List.suffix_refl _

theorem exponent_suffix {cs rest : List Char} {n : Int} (read : exponent cs = some (n, rest)) :
    rest <:+ cs := by
  unfold exponent at read
  split at read
  · rename_i e more
    split at read
    · obtain ⟨d, taken, same⟩ := Option.map_eq_some_iff.mp read
      cases same
      exact (digits_suffix (by decide) taken).trans
        ((signed_suffix more).trans (List.suffix_cons e more))
    · cases read
  · cases read

/-- The whole part of a number is a zero or a run of digits. -/
def wholePart (cs : List Char) : Option (List Char × List Char) :=
  match cs with
  | '0' :: rest => some (['0'], rest)
  | _ => digits Char.isDigit cs

theorem wholePart_run {cs int rest : List Char} (read : wholePart cs = some (int, rest)) :
    ∃ run, cs = run ++ rest ∧ int = run.filter Char.isDigit ∧ ∀ c ∈ run, c.isDigit ∨ c = '_' := by
  unfold wholePart at read
  split at read
  · cases read
    exact ⟨['0'], rfl, by decide, List.forall_mem_singleton.mpr (Or.inl rfl)⟩
  · exact digits_run (by decide) read

theorem decimal_eq (cs : List Char) :
    decimal cs =
      match wholePart (Literal.signed cs).2 with
      | none => .ok none
      | some (int, rest) =>
        let (frac, behind) := fraction rest
        let digits := Json.decimal (int ++ frac)
        let places : Int := frac.length
        let negative := (Literal.signed cs).1
        match exponent behind with
        | some (e, rest) => .ok (some (.float (.ofDecimal negative digits (e - places)), rest))
        | none =>
          if frac.isEmpty then
            if maxDigits < int.length then .error (.digits int.length)
            else .ok (some (.int (if negative then -(digits : Int) else digits), behind))
          else .ok (some (.float (.ofDecimal negative digits (-places)), behind)) := rfl

/-- What is left of a text behind the number that was found in front, if there was one. -/
def behindNumber (cs : List Char) (found : Option (Scalar × List Char)) : List Char :=
  (found.map Prod.snd).getD cs

theorem within_decimal (cs : List Char) : Within (behindNumber cs) cs (decimal cs) := by
  rw [decimal_eq]
  split
  · exact List.suffix_refl cs
  · rename_i int rest read
    obtain ⟨run, parted, taken, chars⟩ := wholePart_run read
    have whole : rest <:+ cs := List.IsSuffix.trans ⟨run, parted.symm⟩ (signed_suffix cs)
    have fraction := (fraction_suffix rest).trans whole
    dsimp only
    split
    · rename_i e after hexp
      exact (exponent_suffix hexp).trans fraction
    · split
      · split
        · rename_i long
          have inside : run <:+: cs :=
            List.IsInfix.trans ⟨[], rest, parted.symm⟩ (signed_suffix cs).isInfix
          exact ⟨long, run, inside, by rw [taken], chars⟩
        · exact fraction
      · exact fraction

theorem special?_suffix {cs rest : List Char} {x : Binary64} (read : special? cs = some (x, rest)) :
    rest <:+ cs := by
  obtain ⟨w, -, same⟩ := Option.map_eq_some_iff.mp read
  cases same
  exact List.drop_suffix _ cs

theorem twoDigits_suffix {least most n : Nat} {cs rest : List Char}
    (read : twoDigits least most cs = some (n, rest)) : rest <:+ cs := by
  unfold twoDigits at read
  split at read
  · rename_i a b more
    dsimp only at read
    split at read
    · cases read
      exact List.suffix_append [a, b] rest
    · cases read
  · cases read

theorem after_suffix {c : Char} {cs rest : List Char} (read : after c cs = some rest) :
    rest <:+ cs := by
  unfold after at read
  split at read
  · cases read
  · rename_i d more
    split at read
    · cases read
      exact List.suffix_cons d rest
    · cases read

/-- A number of two digits behind a mark. -/
theorem twoDigits_after_suffix {c : Char} {least most n : Nat} {cs behind rest : List Char}
    (marked : after c cs = some behind) (read : twoDigits least most behind = some (n, rest)) :
    rest <:+ cs :=
  (twoDigits_suffix read).trans (after_suffix marked)

theorem clock?_suffix {cs rest : List Char} {t : Clock} (read : clock? cs = some (t, rest)) :
    rest <:+ cs := by
  unfold clock? at read
  simp only [Option.bind_eq_bind, Option.bind_eq_some_iff] at read
  obtain ⟨⟨hour, rest₁⟩, h₁, r₁, a₁, ⟨minute, rest₂⟩, h₂, r₂, a₂, ⟨second, rest₃⟩, h₃, same⟩ := read
  have seconds : rest₃ <:+ cs :=
    (twoDigits_after_suffix a₂ h₃).trans
      ((twoDigits_after_suffix a₁ h₂).trans (twoDigits_suffix h₁))
  have fraction (frac : List Char) :
      (if frac.isEmpty then rest₃ else rest₃.drop (frac.length + 1)) <:+ rest₃ := by
    split
    · exact List.suffix_refl _
    · exact List.drop_suffix _ _
  cases same
  exact (fraction _).trans seconds

theorem offset_suffix (cs : List Char) : (offset cs).2 <:+ cs := by
  unfold offset
  split
  · exact List.suffix_refl _
  · rename_i c rest
    split
    · exact List.suffix_cons c rest
    · split
      · dsimp only
        split
        · rename_i seconds after read
          simp only [Option.bind_eq_bind, Option.bind_eq_some_iff] at read
          obtain ⟨⟨hours, rest₁⟩, h₁, r₁, a₁, ⟨minutes, rest₂⟩, h₂, same⟩ := read
          cases same
          exact (twoDigits_after_suffix a₁ h₂).trans
            ((twoDigits_suffix h₁).trans (List.suffix_cons c rest))
        · exact List.suffix_refl _
      · exact List.suffix_refl _

theorem date?_suffix {cs rest : List Char} {d : Date} (read : date? cs = some (d, rest)) :
    rest <:+ cs := by
  unfold date? at read
  dsimp only at read
  split at read
  · cases read
  · simp only [Option.bind_eq_bind, Option.bind_eq_some_iff] at read
    obtain ⟨r₁, a₁, ⟨month, rest₁⟩, h₁, r₂, a₂, ⟨day, rest₂⟩, h₂, same⟩ := read
    cases same
    exact (twoDigits_after_suffix a₂ h₂).trans
      ((twoDigits_after_suffix a₁ h₁).trans (List.drop_suffix 4 cs))

theorem moment?_suffix {cs rest : List Char} {d : Date} {a : Atom}
    (read : moment? cs = some (d, a, rest)) : rest <:+ cs := by
  unfold moment? at read
  simp only [Option.bind_eq_bind, Option.bind_eq_some_iff] at read
  obtain ⟨⟨day, rest₁⟩, h₁, found⟩ := read
  have dated := date?_suffix h₁
  dsimp only at found
  split at found
  · rename_i t rest₂ time
    cases found
    refine (offset_suffix rest₂).trans (List.IsSuffix.trans ?_ dated)
    split at time
    · rename_i c more
      split at time
      · exact (clock?_suffix time).trans (List.suffix_cons c more)
      · cases time
    · cases time
  · cases found
    exact dated

theorem within_atom (cs : List Char) : Within Prod.snd cs (atom cs) := by
  unfold atom
  split
  · exact List.drop_suffix 4 cs
  · split
    · exact List.drop_suffix 5 cs
    · split
      · rename_i d a rest read
        split
        · exact moment?_suffix read
        · exact .malformed
      · split
        · rename_i read
          exact clock?_suffix read
        · rename_i read
          exact marked_suffix read
        · refine (within_decimal cs).bind fun found => ?_
          split
          · exact List.suffix_refl _
          · split
            · rename_i read
              exact special?_suffix read
            · exact .malformed

theorem within_skipArrayBlanks (fuel : Nat) (cs : List Char) :
    Within id cs (skipArrayBlanks fuel cs) := by
  induction fuel generalizing cs with
  | zero => exact List.suffix_refl cs
  | succ fuel ih =>
    have blanks : cs.dropWhile isBlankOrLine <:+ cs := List.dropWhile_suffix _
    unfold skipArrayBlanks
    split
    · rename_i rest behind
      rw [behind] at blanks
      dsimp only
      split
      · exact .malformed
      · exact (ih _).mono
          ((List.drop_suffix _ rest).trans ((List.suffix_cons '#' rest).trans blanks))
    · exact blanks

/-- The readers of values stay within their texts as far as some fuel goes. -/
structure ReadersWithin (fuel : Nat) : Prop where
  value : ∀ cs, Within Prod.snd cs (Toml.value fuel cs)
  items : ∀ cs, Within Prod.snd cs (Toml.items fuel cs)
  entries : ∀ cs es frozen, Within Prod.snd cs (inlineEntries fuel cs es frozen)

namespace ReadersWithin

variable {fuel : Nat}

theorem value_succ (readers : ReadersWithin fuel) (cs : List Char) :
    Within Prod.snd cs (Toml.value (fuel + 1) cs) := by
  unfold Toml.value
  split
  · exact .malformed
  · rename_i c rest
    split
    · exact (within_string _).bind fun text => List.suffix_refl _
    · split
      · refine ((within_skipArrayBlanks _ rest).mono (List.suffix_cons c rest)).bind fun more => ?_
        exact (readers.items more).bind fun items => List.suffix_refl _
      · split
        · have blanks := (skipBlanks_suffix rest).trans (List.suffix_cons c rest)
          split
          · rename_i after behind
            rw [behind] at blanks
            exact (List.suffix_cons '\x7d' after).trans blanks
          · exact ((readers.entries _ [] []).mono blanks).bind fun es => List.suffix_refl _
        · exact (within_atom _).bind fun a => List.suffix_refl _

theorem items_succ (readers : ReadersWithin fuel) (cs : List Char) :
    Within Prod.snd cs (Toml.items (fuel + 1) cs) := by
  unfold Toml.items
  split
  · exact List.drop_suffix 1 cs
  · refine (readers.value cs).bind fun v => ?_
    refine (within_skipArrayBlanks _ v.2).bind fun more => ?_
    split
    · exact List.suffix_cons _ _
    · rename_i rest
      refine ((within_skipArrayBlanks _ rest).mono (List.suffix_cons ',' rest)).bind fun next => ?_
      exact (readers.items next).bind fun items => List.suffix_refl _
    · exact .malformed

theorem entries_succ (readers : ReadersWithin fuel) (cs : List Char) (es : Entries)
    (frozen : List (List String)) :
    Within Prod.snd cs (inlineEntries (fuel + 1) cs es frozen) := by
  unfold inlineEntries
  refine (within_assigned cs).bind fun path => ?_
  refine (readers.value path.2).bind fun v => ?_
  have blanks := skipBlanks_suffix v.2
  dsimp only
  split
  · exact .malformed
  · split
    · exact .malformed
    · split
      · rename_i rest behind
        rw [behind] at blanks
        exact (List.suffix_cons '\x7d' rest).trans blanks
      · rename_i rest behind
        rw [behind] at blanks
        exact (readers.entries _ _ _).mono
          ((skipBlanks_suffix rest).trans ((List.suffix_cons ',' rest).trans blanks))
      · exact .malformed

end ReadersWithin

/-- The readers stay within their texts, by induction on the fuel that they share. -/
theorem readersWithin (fuel : Nat) : ReadersWithin fuel := by
  induction fuel with
  | zero => exact ⟨fun cs => .malformed, fun cs => .malformed, fun cs es frozen => .malformed⟩
  | succ fuel ih => exact ⟨ih.value_succ, ih.items_succ, ih.entries_succ⟩

theorem within_headerKey (closing cs : List Char) : Within Prod.snd cs (headerKey closing cs) := by
  unfold headerKey
  refine ((within_key _).mono (skipBlanks_suffix cs)).bind fun path => ?_
  dsimp only
  split
  · exact List.drop_suffix _ path.2
  · exact .malformed

theorem within_lineEnd (cs : List Char) : Within id cs (lineEnd cs) := by
  have blanks := skipBlanks_suffix cs
  have left {rest : List Char} (inside : rest <:+ cs) : Within id cs (.ok rest) := inside
  unfold lineEnd
  dsimp only
  split
  · rename_i rest behind
    rw [behind] at blanks
    split
    · exact .malformed
    · have commented := (List.drop_suffix (rest.takeWhile (· ≠ '\n')).length rest).trans
        ((List.suffix_cons '#' rest).trans blanks)
      refine (left commented).bind fun behind => ?_
      split
      · exact List.suffix_refl _
      · exact List.suffix_cons _ _
      · exact .malformed
  · refine (left blanks).bind fun behind => ?_
    split
    · exact List.suffix_refl _
    · exact List.suffix_cons _ _
    · exact .malformed

theorem within_openTable (p : Progress) (path : List String) (rest : List Char) :
    Within (fun _ => rest) rest (p.openTable path) := by
  unfold Progress.openTable
  split
  · exact .malformed
  · split
    · exact List.suffix_refl rest
    · exact .malformed

theorem within_extendList (p : Progress) (path : List String) (rest : List Char) :
    Within (fun _ => rest) rest (p.extendList path) := by
  unfold Progress.extendList
  split
  · exact .malformed
  · dsimp only
    split
    · exact List.suffix_refl rest
    · exact .malformed

theorem within_assign (p : Progress) (path : List String) (v : Value) (rest : List Char) :
    Within (fun _ => rest) rest (p.assign path v) := by
  unfold Progress.assign
  dsimp only
  split
  · exact .malformed
  · split
    · exact .malformed
    · exact List.suffix_refl rest

theorem within_statement (p : Progress) (cs : List Char) :
    Within Prod.snd cs (statement p cs) := by
  unfold statement
  split
  · rename_i rest
    refine ((within_headerKey _ rest).mono (List.suffix_append ['[', '['] rest)).bind fun path => ?_
    exact (within_extendList _ path.1 path.2).bind fun next => List.suffix_refl _
  · rename_i rest _
    refine ((within_headerKey _ rest).mono (List.suffix_cons '[' rest)).bind fun path => ?_
    exact (within_openTable _ path.1 path.2).bind fun next => List.suffix_refl _
  · rename_i c rest _ _
    split
    · refine (within_assigned _).bind fun path => ?_
      refine ((readersWithin _).value path.2).bind fun v => ?_
      exact (within_assign p path.1 v.1 v.2).bind fun next => List.suffix_refl _
    · exact List.suffix_refl _
  · exact List.suffix_refl _

theorem within_statements (fuel : Nat) (p : Progress) (cs : List Char) :
    Within (fun _ => []) cs (statements fuel p cs) := by
  induction fuel generalizing p cs with
  | zero => exact .malformed
  | succ fuel ih =>
    have blanks := skipBlanks_suffix cs
    unfold statements
    split
    · exact List.nil_suffix
    · refine ((within_statement p _).mono blanks).bind fun next => ?_
      exact (within_lineEnd next.2).bind fun rest => ih next.1 rest

/-- A text is refused for its digits only if it has a run of too many. -/
theorem longRun_of_parse {cs : List Char} {count : Nat}
    (refused : parse cs = .error (.digits count)) : LongRun (joinLineEnds cs) count := by
  have within := within_statements (cs.length + 1) .start (joinLineEnds cs)
  rw [← parse, refused] at within
  exact within

end DesignTokens.Toml
