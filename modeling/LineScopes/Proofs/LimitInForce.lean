/-
The limit in force.

A program may set a limit, or set that there is none, and take back what it set, at any
time; and the variable of the environment may change behind its back.  One word holds what
the program set, and two values of that word do not stand for themselves.  A program may
set these two as well.

* `Directive` — what a program can say; `Change` — all that can happen, and
  `Settings.afterAll` — what becomes of the settings;
* `Settings.afterAll_unset` — they come to the last directive and the present variable;
* `Override.set_ne_unset` — no limit that is set is taken for nothing set;
* `WritesLimit` — how a variable writes a number, and `variableLimit_eq_some_iff` — a variable
  gives that number and no other;
* `limit_settled_by_last_directive` — the limit in force after any changes.
-/
import LineScopes.LineLimit
import LineScopes.Proofs.Substitution
import Mathlib.Data.List.Basic
import Mathlib.Data.List.Induction

namespace LineScopes

/-! ### Changes -/

/-- What a program says about the limit. -/
inductive Directive where
  /-- That it be this one, or that there be none. -/
  | set (limit : Option UInt64)
  /-- That nothing be set any more. -/
  | clear

/-- What is set then. -/
def Directive.override : Directive → Override
  | .set limit => .set limit
  | .clear => .unset

/-- A change of the settings. -/
inductive Change where
  /-- The program says something. -/
  | program (directive : Directive)
  /-- The variable gets these bytes, or goes away. -/
  | environment (value : Option ByteArray)

namespace Change

/-- What the program says, if it does. -/
def directive? : Change → Option Directive
  | .program d => some d
  | .environment _ => none

/-- What the variable becomes, if it changes. -/
def value? : Change → Option (Option ByteArray)
  | .program _ => none
  | .environment value => some value

end Change

/-- What the program said last, if it said anything. -/
def lastDirective (changes : List Change) : Option Directive :=
  (changes.filterMap Change.directive?).getLast?

/-- The variable as it is after the changes, if it was `first` before them. -/
def presentValue (first : Option ByteArray) (changes : List Change) : Option ByteArray :=
  (changes.filterMap Change.value?).getLast?.getD first

namespace Settings

/-- The settings after a change. -/
def after (s : Settings) : Change → Settings
  | .program d => { s with override := d.override }
  | .environment value => { s with environment := value }

/-- The settings after one change and another. -/
def afterAll (s : Settings) (changes : List Change) : Settings := changes.foldl after s

theorem afterAll_concat (s : Settings) (changes : List Change) (c : Change) :
    s.afterAll (changes ++ [c]) = (s.afterAll changes).after c := by
  rw [afterAll, List.foldl_append]
  rfl

/-- What is set is what the program said last. -/
theorem override_afterAll (s : Settings) (changes : List Change) :
    (s.afterAll changes).override =
      ((lastDirective changes).map Directive.override).getD s.override := by
  -- From the last change on: a directive replaces what was set, and the variable leaves it alone.
  induction changes using List.reverseRecOn with
  | nil => rfl
  | append_singleton changes c ih =>
    rw [afterAll_concat, lastDirective, List.filterMap_append]
    cases c with
    | program d =>
      show d.override = _
      simp [Change.directive?]
    | environment value =>
      show (s.afterAll changes).override = _
      rw [ih, lastDirective]
      simp [Change.directive?]

/-- The variable is as it was changed last. -/
theorem environment_afterAll (s : Settings) (changes : List Change) :
    (s.afterAll changes).environment = presentValue s.environment changes := by
  induction changes using List.reverseRecOn with
  | nil => rfl
  | append_singleton changes c ih =>
    rw [afterAll_concat, presentValue, List.filterMap_append]
    cases c with
    | program d =>
      show (s.afterAll changes).environment = _
      rw [ih, presentValue]
      simp [Change.value?]
    | environment value =>
      show value = _
      simp [Change.value?]

/-- If nothing was set at first, the settings come to the last directive and the present variable. -/
theorem afterAll_unset (first : Option ByteArray) (changes : List Change) :
    afterAll ⟨.unset, first⟩ changes =
      ⟨((lastDirective changes).map Directive.override).getD .unset,
        presentValue first changes⟩ := by
  rw [← override_afterAll ⟨.unset, first⟩ changes, ← environment_afterAll ⟨.unset, first⟩ changes]

end Settings

/-! ### The program's word -/

namespace Override

theorem unlimitedWord_ne_unsetWord : unlimitedWord ≠ unsetWord := by decide

/-- The word that stands for nothing set cannot be set. -/
theorem set_ne_unset (limit : Option UInt64) : (set limit).word ≠ unsetWord := by
  cases limit with
  | none => exact unlimitedWord_ne_unsetWord
  | some w =>
    by_cases hw : w = unsetWord
    · rw [set, if_pos hw]
      exact unlimitedWord_ne_unsetWord
    · rw [set, if_neg hw]
      exact hw

/-- Only a number other than the two special words is kept as a number. -/
theorem set_word_eq_iff {limit : Option UInt64} {w : UInt64} (hw : w ≠ unlimitedWord) :
    (set limit).word = w ↔ limit = some w ∧ w ≠ unsetWord := by
  cases limit with
  | none =>
    constructor
    · intro h
      exact absurd h.symm hw
    · rintro ⟨h, -⟩
      cases h
  | some w' =>
    by_cases hw' : w' = unsetWord
    · rw [set, if_pos hw']
      constructor
      · intro h
        exact absurd h.symm hw
      · rintro ⟨h, hne⟩
        exact absurd (Option.some.inj h ▸ hw') hne
    · rw [set, if_neg hw']
      constructor
      · rintro rfl
        exact ⟨rfl, hw'⟩
      · rintro ⟨h, -⟩
        exact Option.some.inj h

end Override

/-- What a program set is in force, whatever the variable is. -/
theorem Settings.limit_of_set (limit : Option UInt64) (value : Option ByteArray) {n : Nat} :
    (Settings.mk (.set limit) value).limit = some n ↔
      ∃ w, limit = some w ∧ w ≠ Override.unlimitedWord ∧ w ≠ Override.unsetWord ∧ w.toNat = n := by
  rw [Settings.limit, if_neg (Override.set_ne_unset limit)]
  by_cases hzero : (Override.set limit).word = Override.unlimitedWord
  · rw [if_pos hzero]
    constructor
    · intro h
      cases h
    · rintro ⟨w, hlimit, hw, hmax, -⟩
      -- A number that is set is the word, and not the one for no limit.
      have hword : (Override.set limit).word = w := (Override.set_word_eq_iff hw).mpr ⟨hlimit, hmax⟩
      exact absurd (hword.symm.trans hzero) hw
  · rw [if_neg hzero]
    constructor
    · intro h
      obtain ⟨hlimit, hmax⟩ := (Override.set_word_eq_iff hzero).mp rfl
      exact ⟨_, hlimit, hzero, hmax, Option.some.inj h⟩
    · rintro ⟨w, hlimit, hw, hmax, rfl⟩
      rw [(Override.set_word_eq_iff hw).mpr ⟨hlimit, hmax⟩]

/-! ### The variable -/

/-- The text is a number in decimal digits, perhaps behind a plus sign, with any white space around
both. -/
def WritesLimit (text : List Char) (n : Nat) : Prop :=
  ∃ front sign run back, text = front ++ (sign ++ run) ++ back ∧
    (∀ c ∈ front, Unicode.isBlank c) ∧ (∀ c ∈ back, Unicode.isBlank c) ∧
    (sign = [] ∨ sign = ['+']) ∧ BackReference.Writes run n

theorem isBlank_of_isDigit {c : Char} (hc : c.isDigit) : Unicode.isBlank c = false := by
  obtain ⟨hlow, hhigh⟩ := Char.isDigit_iff_toNat.mp hc
  have hzero : '0'.toNat = 48 := rfl
  have hnine : '9'.toNat = 57 := rfl
  have hspace : c ≠ ' ' := by
    rintro rfl
    revert hlow
    decide
  have hreturn : ¬ c ≤ '\x0d' := by
    intro h
    have hle : c.toNat ≤ 13 := UInt32.le_iff_toNat_le.mp h
    omega
  rw [Unicode.isBlank, if_pos (by omega)]
  simp [hspace, hreturn]

/-- A text without white space at its ends is what is left of it. -/
theorem trimBlank_append {front core back : List Char} (hfront : ∀ c ∈ front, Unicode.isBlank c)
    (hback : ∀ c ∈ back, Unicode.isBlank c) (hfirst : ∀ c ∈ core.head?, Unicode.isBlank c = false)
    (hlast : ∀ c ∈ core.getLast?, Unicode.isBlank c = false) (hcore : core ≠ []) :
    trimBlank (front ++ core ++ back) = core := by
  have hkept : ∀ {cs rest : List Char}, (∀ c ∈ cs.head?, Unicode.isBlank c = false) → cs ≠ [] →
      (cs ++ rest).dropWhile Unicode.isBlank = cs ++ rest := by
    intro cs rest hhead hne
    obtain ⟨c, cs, rfl⟩ := List.exists_cons_of_ne_nil hne
    rw [List.cons_append, List.dropWhile_cons, hhead c rfl]
    rfl
  have hback' : ∀ c ∈ back.reverse, Unicode.isBlank c := by
    intro c hc
    exact hback c (List.mem_reverse.mp hc)
  have hlast' : ∀ c ∈ core.reverse.head?, Unicode.isBlank c = false := by
    rw [List.head?_reverse]
    exact hlast
  rw [trimBlank, List.append_assoc, List.dropWhile_append_of_pos hfront, hkept hfirst hcore,
    List.reverse_append, List.dropWhile_append_of_pos hback', ← List.append_nil core.reverse,
    hkept hlast' (by simpa using hcore), List.append_nil, List.reverse_reverse]

/-- Nothing but white space is taken away. -/
theorem exists_trimBlank (cs : List Char) : ∃ front back, cs = front ++ trimBlank cs ++ back ∧
    (∀ c ∈ front, Unicode.isBlank c) ∧ ∀ c ∈ back, Unicode.isBlank c := by
  let rest := cs.dropWhile Unicode.isBlank
  refine ⟨cs.takeWhile Unicode.isBlank, (rest.reverse.takeWhile Unicode.isBlank).reverse, ?_, ?_, ?_⟩
  · have hrest : trimBlank cs ++ (rest.reverse.takeWhile Unicode.isBlank).reverse = rest := by
      rw [trimBlank, ← List.reverse_append, List.takeWhile_append_dropWhile, List.reverse_reverse]
    rw [List.append_assoc, hrest, List.takeWhile_append_dropWhile]
  · intro c hc
    exact List.mem_takeWhile_imp hc
  · intro c hc
    exact List.mem_takeWhile_imp (List.mem_reverse.mp hc)

/-- A number of 64 bits is read from its digits, perhaps behind a plus sign, and from nothing
else. -/
theorem readWord_eq_some_iff_signed {cs : List Char} {n : Nat} :
    Text.readWord cs = some n ↔
      (∃ sign run, cs = sign ++ run ∧ (sign = [] ∨ sign = ['+']) ∧ BackReference.Writes run n) ∧
        n ≤ Text.maxWord := by
  -- A word is its digits where there is no plus sign, and those behind it where there is one.
  by_cases hplus : cs.head? = some '+'
  · obtain ⟨run, rfl⟩ := List.head?_eq_some_iff.mp hplus
    have hread : Text.readWord ('+' :: run) = (Text.readDigits run).filter (· ≤ Text.maxWord) := rfl
    rw [hread, Option.filter_eq_some_iff, BackReference.readDigits_eq_some_iff, decide_eq_true_eq]
    refine and_congr_left fun _ => ⟨fun h => ⟨['+'], run, rfl, .inr rfl, h⟩, ?_⟩
    rintro ⟨sign, run', hcs, rfl | rfl, hwrites⟩
    · -- A plus sign is no digit.
      rw [List.nil_append] at hcs
      have hmem : '+' ∈ run' := by
        rw [← hcs]
        exact List.mem_cons_self ..
      exact absurd (hwrites.2.1 '+' hmem) (by decide)
    · rw [List.singleton_append, List.cons_inj_right] at hcs
      rwa [hcs]
  · rw [BackReference.readWord_eq_some_iff hplus]
    refine and_congr_left fun _ => ⟨fun h => ⟨[], cs, rfl, .inl rfl, h⟩, ?_⟩
    rintro ⟨sign, run, rfl, rfl | rfl, hwrites⟩
    · exact hwrites
    · exact absurd rfl hplus

/-- A variable gives the limit that it writes, if that is positive and one of 64 bits, and none if
it writes no such limit. -/
theorem variableLimit_eq_some_iff {text : String} {n : Nat} :
    variableLimit text = some n ↔ WritesLimit text.toList n ∧ 0 < n ∧ n ≤ Text.maxWord := by
  rw [variableLimit, Option.filter_eq_some_iff, readWord_eq_some_iff_signed, decide_eq_true_eq]
  constructor
  · rintro ⟨⟨⟨sign, run, hcore, hsign, hwrites⟩, hmax⟩, hne⟩
    obtain ⟨front, back, htext, hfront, hback⟩ := exists_trimBlank text.toList
    rw [hcore] at htext
    exact ⟨⟨front, sign, run, back, htext, hfront, hback, hsign, hwrites⟩,
      Nat.pos_of_ne_zero hne, hmax⟩
  · rintro ⟨⟨front, sign, run, back, htext, hfront, hback, hsign, hwrites⟩, hpos, hmax⟩
    have hcore : trimBlank text.toList = sign ++ run := by
      obtain ⟨hrun, hdigits, -⟩ := hwrites
      rw [htext]
      refine trimBlank_append hfront hback ?_ ?_ (by simp [hrun])
      · intro c hc
        rcases hsign with rfl | rfl
        · exact isBlank_of_isDigit (hdigits c (List.mem_of_mem_head? hc))
        · obtain rfl : '+' = c := Option.some.inj hc
          decide
      · intro c hc
        rw [List.getLast?_append_of_ne_nil _ hrun] at hc
        exact isBlank_of_isDigit (hdigits c (List.mem_of_mem_getLast? hc))
    exact ⟨⟨⟨sign, run, hcore, hsign, hwrites⟩, hmax⟩, Nat.ne_of_gt hpos⟩

/-- The bytes of a variable are those of one text at most, and are read as that text. -/
theorem fromUTF8?_eq_some_iff {bytes : ByteArray} {text : String} :
    String.fromUTF8? bytes = some text ↔ bytes = text.toUTF8 := by
  unfold String.fromUTF8?
  constructor
  · intro h
    split at h
    · obtain rfl := Option.some.inj h
      rfl
    · cases h
  · rintro rfl
    rw [String.toUTF8_eq_toByteArray, dif_pos text.isValidUTF8]
    rfl

/-- If the program set nothing, the limit of the variable is in force. -/
theorem Settings.limit_of_unset (value : Option ByteArray) {n : Nat} :
    (Settings.mk .unset value).limit = some n ↔
      ∃ text : String, value = some text.toUTF8 ∧ WritesLimit text.toList n ∧ 0 < n ∧
        n ≤ Text.maxWord := by
  have hlimit : (Settings.mk .unset value).limit = (value.bind String.fromUTF8?).bind variableLimit :=
    if_pos rfl
  rw [hlimit, Option.bind_eq_some_iff]
  constructor
  · rintro ⟨text, htext, hread⟩
    obtain ⟨bytes, rfl, hbytes⟩ := Option.bind_eq_some_iff.mp htext
    rw [fromUTF8?_eq_some_iff] at hbytes
    exact ⟨text, congrArg some hbytes, variableLimit_eq_some_iff.mp hread⟩
  · rintro ⟨text, rfl, hread⟩
    exact ⟨text, fromUTF8?_eq_some_iff.mpr rfl, variableLimit_eq_some_iff.mpr hread⟩

/-- No settings put a limit of 0 in force. -/
theorem Settings.limit_ne_zero (s : Settings) : s.limit ≠ some 0 := by
  intro h
  unfold Settings.limit at h
  split at h
  · obtain ⟨text, -, hread⟩ := Option.bind_eq_some_iff.mp h
    obtain ⟨-, hpos, -⟩ := variableLimit_eq_some_iff.mp hread
    exact Nat.lt_irrefl 0 hpos
  split at h
  · cases h
  · next hword => exact hword (UInt64.toNat_inj.mp (Option.some.inj h))

/-! ### The limit in force -/

/-- Whatever the program said about the limit, one thing after another, and whatever became of the
variable meanwhile, the limit in force is settled by the last thing that the program said and by the
variable as it is now.  If that was to set a limit, it is in force, except that with 0, the largest
word or none a line may have any length.  If the program took back what it had set, or never set
anything, then the variable gives the limit, as long as it writes a positive number of 64 bits in
UTF-8.  A limit of 0 is never in force. -/
theorem limit_settled_by_last_directive (first : Option ByteArray) (changes : List Change) :
    let s := Settings.afterAll ⟨.unset, first⟩ changes
    (∀ (first' : Option ByteArray) (changes' : List Change),
      lastDirective changes' = lastDirective changes →
      presentValue first' changes' = presentValue first changes →
      (Settings.afterAll ⟨.unset, first'⟩ changes').limit = s.limit) ∧
    (∀ limit, lastDirective changes = some (.set limit) → ∀ n, s.limit = some n ↔
      ∃ w, limit = some w ∧ w ≠ 0 ∧ w ≠ UInt64.ofNat Text.maxWord ∧ w.toNat = n) ∧
    (lastDirective changes = some .clear ∨ lastDirective changes = none → ∀ n, s.limit = some n ↔
      ∃ text : String, presentValue first changes = some text.toUTF8 ∧
        WritesLimit text.toList n ∧ 0 < n ∧ n ≤ Text.maxWord) ∧
    s.limit ≠ some 0 := by
  intro s
  have hs : s = ⟨((lastDirective changes).map Directive.override).getD .unset,
      presentValue first changes⟩ := Settings.afterAll_unset first changes
  refine ⟨?_, ?_, ?_, ?_⟩
  · intro first' changes' hdirective hvalue
    rw [hs, Settings.afterAll_unset, hdirective, hvalue]
  · intro limit hlast n
    rw [hs, hlast]
    exact Settings.limit_of_set limit (presentValue first changes)
  · intro hlast n
    have hunset : s = ⟨.unset, presentValue first changes⟩ := by
      rcases hlast with hlast | hlast <;> rw [hs, hlast] <;> rfl
    rw [hunset]
    exact Settings.limit_of_unset (presentValue first changes)
  · exact s.limit_ne_zero

/-- The largest word is no limit but stands for none, whatever the variable is.  As soon as it is
taken back, the variable counts again, white space and plus sign included, as if nothing had been
set, and 0 in it is no limit. -/
theorem limit_settled_by_last_directive_of_largest_word :
    let padded := "\t+120 "
    let largest : List Change := [.program (.set (some 80)), .environment (some padded.toUTF8),
      .program (.set (some (UInt64.ofNat Text.maxWord)))]
    let cleared := largest ++ [.program .clear]
    lastDirective largest = some (.set (some (UInt64.ofNat Text.maxWord))) ∧
      lastDirective cleared = some .clear ∧ lastDirective [.program .clear] = lastDirective cleared ∧
      presentValue (some padded.toUTF8) [.program .clear] = presentValue none cleared ∧
      (Settings.afterAll ⟨.unset, none⟩ largest).limit = none ∧
      (Settings.afterAll ⟨.unset, none⟩ cleared).limit = some 120 ∧
      (Settings.afterAll ⟨.unset, some padded.toUTF8⟩ [.program .clear]).limit = some 120 ∧
      (Settings.afterAll ⟨.unset, some "0".toUTF8⟩ []).limit ≠ some 0 := by
  intro padded largest cleared
  obtain ⟨-, hset, -, -⟩ := limit_settled_by_last_directive none largest
  obtain ⟨hsame, -, hclear, -⟩ := limit_settled_by_last_directive none cleared
  obtain ⟨-, -, -, hzero⟩ := limit_settled_by_last_directive (some "0".toUTF8) []
  have hlargest : (Settings.afterAll ⟨.unset, none⟩ largest).limit = none := by
    rw [Option.eq_none_iff_forall_ne_some]
    intro n hn
    obtain ⟨w, hw, -, hmax, -⟩ := (hset _ rfl n).mp hn
    exact hmax (Option.some.inj hw).symm
  have hwrites : WritesLimit padded.toList 120 :=
    ⟨['\t'], ['+'], ['1', '2', '0'], [' '], by decide, List.all_eq_true.mp (by decide),
      List.all_eq_true.mp (by decide), .inr rfl, by decide, List.all_eq_true.mp (by decide),
      by decide⟩
  have hcleared : (Settings.afterAll ⟨.unset, none⟩ cleared).limit = some 120 :=
    (hclear (.inl rfl) 120).mpr ⟨padded, rfl, hwrites, by decide, by decide⟩
  exact ⟨rfl, rfl, rfl, rfl, hlargest, hcleared, (hsame _ _ rfl rfl).trans hcleared, hzero⟩

end LineScopes
