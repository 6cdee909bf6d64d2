import Mathlib.Tactic.SplitIfs
import Skinning.Toml.Printer
import Skinning.Toml.Token

/-! Texts between marks. Whatever its characters are, a text is written so that the scanner reads it
back as it was: what would end it or may not stand in it is escaped, and so is what a style without
escapes has no way to write. -/
namespace Skinning.Toml

namespace Mode

/-- The scanner goes over the characters from one mode to the other and completes the tokens. -/
inductive Leads : Mode → List Char → List Token → Mode → Prop where
  | nil (mode : Mode) : Leads mode [] [] mode
  | cons {mode next last : Mode} {c : Char} {cs : List Char} {tokens more : List Token}
      (step : mode.step c = some (next, tokens)) (rest : Leads next cs more last) :
      Leads mode (c :: cs) (tokens ++ more) last

variable {mode next last : Mode} {c : Char} {cs xs ys : List Char} {tokens more : List Token}

theorem Leads.silent (step : mode.step c = some (next, [])) (rest : Leads next cs tokens last) :
    Leads mode (c :: cs) tokens last :=
  .cons step rest

theorem Leads.single (step : mode.step c = some (next, tokens)) : Leads mode [c] tokens next := by
  simpa using Leads.cons step (.nil next)

theorem Leads.append (first : Leads mode xs tokens next) (second : Leads next ys more last) :
    Leads mode (xs ++ ys) (tokens ++ more) last := by
  induction first with
  | nil => exact second
  | cons step _ ih => simpa using Leads.cons step (ih second)

theorem Leads.scan (leads : Leads mode cs tokens next) (rest : List Char) :
    mode.scan (cs ++ rest) = (next.scan rest).map (tokens ++ ·) := by
  induction leads with
  | nil => simp
  | @cons _ _ last _ _ _ _ step _ ih =>
    rw [List.cons_append, Mode.scan, step]
    cases scanned : last.scan rest <;> simp [ih, scanned]

/-- A mode can stand in for another that takes the next character as it does. -/
theorem Leads.of_step {other : Mode} (leads : Leads other (c :: cs) tokens last)
    (same : mode.step c = other.step c) : Leads mode (c :: cs) tokens last := by
  cases leads with
  | cons step rest => exact .cons (same.trans step) rest

/-! The text that is being read. -/

/-- A text with some of its own marks at the end, which may turn out to be what ends it. -/
def reading (mark : Char) (long : Bool) (pending : Nat) (read : List Char) : Mode :=
  .quote ⟨mark, long, read⟩ (if pending = 0 then .plain else .marks pending)

/-- The text that has been read, with the marks that are pending. Three of them would end it, and a
text on a single line ends with the first. -/
structure Holds (mark : Char) (long : Bool) (pending : Nat) (text : List Char) (mode : Mode) :
    Prop where
  few : pending < 3
  ends : long = false → pending = 0
  read : ∃ read, mode = reading mark long pending read ∧
    List.replicate pending mark ++ read = text.reverse

variable {mark : Char} {long : Bool} {pending : Nat} {text : List Char}

theorem holds_nil (mark : Char) (long : Bool) : Holds mark long 0 [] (reading mark long 0 []) :=
  ⟨by decide, fun _ => rfl, [], rfl, rfl⟩

/-- A character that is no mark makes the marks before it part of the text. -/
theorem Holds.step_eq (holds : Holds mark long pending text mode) (other : c ≠ mark) :
    mode.step c = plain ⟨mark, long, text.reverse⟩ c := by
  obtain ⟨few, -, read, rfl, same⟩ := holds
  rw [← same]
  by_cases none : pending = 0
  · subst none
    rfl
  · simp [reading, none, Mode.step, inQuote, marks, other, few, Quote.pushMarks]

theorem holds_push (text : List Char) (c : Char) : Holds mark long 0 (text ++ [c])
    (.quote ((⟨mark, long, text.reverse⟩ : Quote).push c) .plain) :=
  ⟨by decide, fun _ => rfl, c :: text.reverse, rfl, by simp⟩

/-- A character that stands for itself. -/
theorem Holds.take (holds : Holds mark long pending text mode) (other : c ≠ mark)
    (unescaped : c = '\\' → mark ≠ '"') (allowed : isTextChar c ∨ c = '\n' ∧ long = true) :
    ∃ next, Leads mode [c] [] next ∧ Holds mark long 0 (text ++ [c]) next := by
  refine ⟨_, .single ((holds.step_eq other).trans ?_), holds_push text c⟩
  have plain : (c == '\\' && mark == '"') = false := by
    by_cases backslash : c = '\\'
    · simp [unescaped backslash]
    · simp [backslash]
  have stands : (isTextChar c || (c == '\n' && long)) = true := by simpa using allowed
  simp [Mode.plain, other, plain, stands]

theorem step_mark (few : pending < 5) (read : List Char) :
    (reading mark true pending read).step mark = some (reading mark true (pending + 1) read, []) := by
  by_cases none : pending = 0
  · subst none
    simp [reading, Mode.step, inQuote, Mode.plain]
  · simp [reading, none, Mode.step, inQuote, marks, few]

/-- A mark that does not end the text so far. -/
theorem Holds.pend (holds : Holds mark true pending text mode) (few : pending < 2) :
    ∃ next, Leads mode [mark] [] next ∧ Holds mark true (pending + 1) (text ++ [mark]) next := by
  obtain ⟨-, -, read, rfl, same⟩ := holds
  refine ⟨_, .single (step_mark (by omega) read), by omega, by simp, read, rfl, ?_⟩
  rw [List.reverse_append, ← same]
  rfl

def delimiter (mark : Char) (long : Bool) : List Char :=
  if long then [mark, mark, mark] else [mark]

/-- The marks behind a text end it, also where some before them belong to it. -/
theorem Holds.close (holds : Holds mark long pending text mode) (isMark : mark ≠ '\n') :
    Leads mode (delimiter mark long ++ ['\n']) [.text (String.ofList text) long, .newline]
      .between := by
  obtain ⟨few, ends, read, rfl, same⟩ := holds
  obtain rfl : (List.replicate pending mark ++ read).reverse = text := by simp [same]
  cases long with
  | false =>
    obtain rfl := ends rfl
    have step : (reading mark false 0 read).step mark =
        some (.between, [.text (String.ofList read.reverse) false]) := by
      simp [reading, Mode.step, inQuote, Mode.plain, Quote.token]
    exact .cons step (.single rfl)
  | true =>
    -- Of up to five marks in a row the last three end the text.
    have enough : ¬ pending + 1 + 1 + 1 < 3 := by omega
    have step : (reading mark true (pending + 1 + 1 + 1) read).step '\n' = some (.between,
        [.text (String.ofList (List.replicate pending mark ++ read).reverse) true, .newline]) := by
      simp [reading, Mode.step, inQuote, marks, isMark.symm, enough, startAfter, start, mark?,
        Quote.pushMarks, Quote.token]
    exact .silent (step_mark (by omega) read) (.silent (step_mark (by omega) read)
      (.silent (step_mark (by omega) read) (.single step)))

/-! Escapes. -/

/-- An escape that the scanner reads as a character. -/
def IsEscape (escaped : List Char) (c : Char) : Prop :=
  ∀ q : Quote, q.mark = '"' → Leads (.quote q .plain) escaped [] (.quote (q.push c) .plain)

theorem step_backslash {q : Quote} (isMark : q.mark = '"') :
    (Mode.quote q .plain).step '\\' = some (.quote q .escape, []) := by
  simp [Mode.step, inQuote, plain, isMark]

theorem isEscape_letter {letter : Char} (stands : escaped? letter = some c) :
    IsEscape ['\\', letter] c := by
  intro q isMark
  have found : (Mode.quote q .escape).step letter = some (.quote (q.push c) .plain, []) := by
    simp [Mode.step, inQuote, escape, stands]
  exact .silent (step_backslash isMark) (.single found)

/-- A code of four digits. -/
theorem leads_code {q : Quote} {d₁ d₂ d₃ d₄ : Char} {v₁ v₂ v₃ v₄ : Nat}
    (first : Text.digit? 16 d₁ = some v₁) (second : Text.digit? 16 d₂ = some v₂)
    (third : Text.digit? 16 d₃ = some v₃) (fourth : Text.digit? 16 d₄ = some v₄)
    (found : charOf? (((v₁ * 16 + v₂) * 16 + v₃) * 16 + v₄) = some c) :
    Leads (.quote q (.code 4 0)) [d₁, d₂, d₃, d₄] [] (.quote (q.push c) .plain) := by
  have one : (Mode.quote q (.code 4 0)).step d₁ = some (.quote q (.code 3 v₁), []) := by
    simp [Mode.step, inQuote, code, first]
  have two : (Mode.quote q (.code 3 v₁)).step d₂ =
      some (.quote q (.code 2 (v₁ * 16 + v₂)), []) := by
    simp [Mode.step, inQuote, code, second]
  have three : (Mode.quote q (.code 2 (v₁ * 16 + v₂))).step d₃ =
      some (.quote q (.code 1 ((v₁ * 16 + v₂) * 16 + v₃)), []) := by
    simp [Mode.step, inQuote, code, third]
  have four : (Mode.quote q (.code 1 ((v₁ * 16 + v₂) * 16 + v₃))).step d₄ =
      some (.quote (q.push c) .plain, []) := by
    simp [Mode.step, inQuote, code, fourth, found]
  exact .silent one (.silent two (.silent three (.single four)))

theorem digits_hexDigits : ∀ n < 128,
    ((Color.hexDigits 4 n).map Char.toUpper).map (Text.digit? 16) =
      [some 0, some 0, some (n / 16), some (n % 16)] := by
  decide +kernel

theorem charOf?_ascii : ∀ n < 128, charOf? n = some (Char.ofNat n) := by decide

theorem isEscape_code (ascii : c.toNat < 128) :
    IsEscape ('\\' :: 'u' :: (Color.hexDigits 4 c.toNat).map Char.toUpper) c := by
  intro q isMark
  have values := digits_hexDigits c.toNat ascii
  generalize (Color.hexDigits 4 c.toNat).map Char.toUpper = digits at values
  simp only [List.map_eq_cons_iff, List.map_eq_nil_iff] at values
  obtain ⟨d₁, _, rfl, first, d₂, _, rfl, second, d₃, _, rfl, third, d₄, _, rfl, fourth, rfl⟩ := values
  have number : ((0 * 16 + 0) * 16 + c.toNat / 16) * 16 + c.toNat % 16 = c.toNat := by omega
  have found : charOf? (((0 * 16 + 0) * 16 + c.toNat / 16) * 16 + c.toNat % 16) = some c := by
    rw [number, charOf?_ascii _ ascii, Char.ofNat_toNat]
  have begins : (Mode.quote q .escape).step 'u' = some (.quote q (.code 4 0), []) := by
    simp [Mode.step, inQuote, escape, escaped?]
  exact .silent (step_backslash isMark)
    (.silent begins (leads_code first second third fourth found))

theorem toNat_lt_of_isControl (control : Style.isControl c) : c.toNat < 128 := by
  simp only [Style.isControl, Bool.or_eq_true, Bool.and_eq_true, decide_eq_true_eq,
    beq_iff_eq] at control
  rcases control with ⟨⟨low, -⟩, -⟩ | rfl
  · exact Nat.lt_trans low (by decide)
  · decide

theorem isTextChar_of_not_isControl (plain : Style.isControl c = false) :
    isTextChar c ∨ c = '\n' := by
  simp only [Style.isControl, Bool.or_eq_false_iff, Bool.and_eq_false_iff, decide_eq_false_iff_not,
    bne_eq_false_iff_eq, beq_eq_false_iff_ne] at plain
  obtain ⟨(low | tab) | broken, delete⟩ := plain
  · have high : ' ' ≤ c := Char.not_lt.mp low
    exact .inl (by simp [isTextChar, high, delete])
  · exact .inl (by simp [isTextChar, tab])
  · exact .inr broken

/-- The escapes that are written: a letter, or the code of a control character. -/
theorem escapeOf_cases {escaped : List Char} (escapes : escapeOf? long c = some escaped) :
    (∃ letter, escaped = ['\\', letter] ∧ escaped? letter = some c ∧ ' ' ≤ letter) ∨
      escaped = '\\' :: 'u' :: (Color.hexDigits 4 c.toNat).map Char.toUpper ∧
        Style.isControl c := by
  unfold escapeOf? at escapes
  split at escapes
  · exact .inl ⟨'b', (Option.some.inj escapes).symm, rfl, by decide⟩
  · exact .inl ⟨'t', (Option.some.inj escapes).symm, rfl, by decide⟩
  · split at escapes
    · cases escapes
    · exact .inl ⟨'n', (Option.some.inj escapes).symm, rfl, by decide⟩
  · exact .inl ⟨'f', (Option.some.inj escapes).symm, rfl, by decide⟩
  · exact .inl ⟨'r', (Option.some.inj escapes).symm, rfl, by decide⟩
  · exact .inl ⟨'\\', (Option.some.inj escapes).symm, rfl, by decide⟩
  · split at escapes
    next control => exact .inr ⟨(Option.some.inj escapes).symm, control⟩
    next => cases escapes

theorem isEscape_escapeOf {escaped : List Char} (escapes : escapeOf? long c = some escaped) :
    IsEscape escaped c := by
  rcases escapeOf_cases escapes with ⟨letter, rfl, stands, -⟩ | ⟨rfl, control⟩
  · exact isEscape_letter stands
  · exact isEscape_code (toNat_lt_of_isControl control)

theorem head?_escapeOf {escaped : List Char} (escapes : escapeOf? long c = some escaped) :
    escaped.head? = some '\\' := by
  rcases escapeOf_cases escapes with ⟨letter, rfl, -, -⟩ | ⟨rfl, -⟩
  · rfl
  · rfl

/-- What needs no escape stands for itself. -/
theorem plain_of_escapeOf (stands : escapeOf? long c = none) :
    c ≠ '\\' ∧ (isTextChar c ∨ c = '\n' ∧ long = true) := by
  have backslash : c ≠ '\\' := by
    rintro rfl
    cases stands
  refine ⟨backslash, ?_⟩
  by_cases broken : c = '\n'
  · subst broken
    cases long
    · cases stands
    · exact .inr ⟨rfl, rfl⟩
  · refine .inl (Or.resolve_right (isTextChar_of_not_isControl ?_) broken)
    unfold escapeOf? at stands
    split at stands
    all_goals simp_all

theorem Holds.escape {escaped : List Char} (holds : Holds '"' long pending text mode)
    (isEscape : IsEscape escaped c) (begins : escaped.head? = some '\\') :
    ∃ next, Leads mode escaped [] next ∧ Holds '"' long 0 (text ++ [c]) next := by
  refine ⟨_, ?_, holds_push text c⟩
  have leads := isEscape ⟨'"', long, text.reverse⟩ rfl
  obtain ⟨rest, rfl⟩ := List.head?_eq_some_iff.mp begins
  exact leads.of_step (holds.step_eq (by decide))

/-- What leads from one text to a longer one, whatever marks are pending then. -/
def Extends (mark : Char) (long : Bool) (mode : Mode) (text cs spelled : List Char) : Prop :=
  ∃ pending next, Leads mode spelled [] next ∧ Holds mark long pending (text ++ cs) next

theorem Extends.cons {spelled more : List Char} (leads : Leads mode spelled [] next)
    (rest : Extends mark long next (text ++ [c]) cs more) :
    Extends mark long mode text (c :: cs) (spelled ++ more) := by
  obtain ⟨pending, last, others, holds⟩ := rest
  exact ⟨pending, last, by simpa using leads.append others, by simpa using holds⟩

/-- An escaped text is read back. -/
theorem extends_escapeFrom (cs : List Char) (holds : Holds '"' long pending text mode) :
    Extends '"' long mode text cs (escapeFrom long pending cs) := by
  induction cs generalizing pending text mode with
  | nil => exact ⟨pending, mode, .nil mode, by simpa using holds⟩
  | cons c rest ih =>
    unfold escapeFrom
    split
    next quoted =>
      subst quoted
      split
      next room =>
        simp only [Bool.and_eq_true, decide_eq_true_eq] at room
        obtain ⟨rfl, room⟩ := room
        obtain ⟨next, leads, holds⟩ := holds.pend room
        exact .cons leads (ih holds)
      next =>
        have escaped : IsEscape ['\\', '"'] '"' := isEscape_letter rfl
        obtain ⟨next, leads, holds⟩ := holds.escape escaped rfl
        exact .cons leads (ih holds)
    next unquoted =>
      split
      next escaped escapes =>
        obtain ⟨next, leads, holds⟩ :=
          holds.escape (isEscape_escapeOf escapes) (head?_escapeOf escapes)
        exact .cons leads (ih holds)
      next stands =>
        obtain ⟨backslash, allowed⟩ := plain_of_escapeOf stands
        obtain ⟨next, leads, holds⟩ :=
          holds.take unquoted (fun same => absurd same backslash) allowed
        exact .cons leads (ih holds)

theorem le_longestRun (cs : List Char) : pending ≤ Style.longestRun mark pending cs := by
  induction cs generalizing pending with
  | nil => exact Nat.le_refl pending
  | cons c rest ih =>
    unfold Style.longestRun
    split
    · exact Nat.le_of_succ_le ih
    · exact Nat.le_max_left _ _

/-- A text without escapes. -/
theorem extends_literal {cs : List Char} (plain : ∀ c ∈ cs, Style.isControl c = false)
    (unbroken : long = false → '\n' ∉ cs)
    (few : Style.longestRun '\'' pending cs ≤ if long then 2 else 0)
    (holds : Holds '\'' long pending text mode) : Extends '\'' long mode text cs cs := by
  induction cs generalizing pending text mode with
  | nil => exact ⟨pending, mode, .nil mode, by simpa using holds⟩
  | cons c rest ih =>
    obtain ⟨plainChar, plainRest⟩ := List.forall_mem_cons.mp plain
    have unbrokenRest : long = false → '\n' ∉ rest := fun short member =>
      unbroken short (List.mem_cons_of_mem c member)
    unfold Style.longestRun at few
    split at few
    next quoted =>
      subst quoted
      have room := Nat.le_trans (le_longestRun rest) few
      obtain rfl : long = true := by
        cases long
        · exact absurd room (Nat.not_succ_le_zero _)
        · rfl
      obtain ⟨next, leads, holds⟩ := holds.pend (Nat.lt_of_succ_le room)
      exact .cons leads (ih plainRest unbrokenRest few holds)
    next unquoted =>
      have allowed : isTextChar c ∨ c = '\n' ∧ long = true := by
        refine (isTextChar_of_not_isControl plainChar).imp_right fun broken => ⟨broken, ?_⟩
        cases long
        · exact absurd (broken ▸ List.mem_cons_self) (unbroken rfl)
        · rfl
      obtain ⟨next, leads, holds⟩ := holds.take unquoted (fun _ => by decide) allowed
      exact .cons leads (ih plainRest unbrokenRest (Nat.le_trans (Nat.le_max_right _ _) few) holds)

theorem Extends.close {spelled : List Char} (whole : Extends mark long mode [] cs spelled)
    (isMark : mark ≠ '\n') : Leads mode (spelled ++ (delimiter mark long ++ ['\n']))
      [.text (String.ofList cs) long, .newline] .between := by
  obtain ⟨pending, next, leads, holds⟩ := whole
  exact leads.append (holds.close isMark)

end Mode

/-! The characters that are written. -/

theorem le_of_mem_code {n : Nat} (ascii : n < 128) {d : Char}
    (member : d ∈ '\\' :: 'u' :: (Color.hexDigits 4 n).map Char.toUpper) : ' ' ≤ d := by
  have all : ∀ n < 128, ('\\' :: 'u' :: (Color.hexDigits 4 n).map Char.toUpper).all
      (' ' ≤ ·) = true := by
    decide +kernel
  simpa using List.all_eq_true.mp (all n ascii) d member

theorem le_of_mem_escapeOf {long : Bool} {c d : Char} {escaped : List Char}
    (escapes : escapeOf? long c = some escaped) (member : d ∈ escaped) : ' ' ≤ d := by
  rcases Mode.escapeOf_cases escapes with ⟨letter, rfl, -, printing⟩ | ⟨rfl, control⟩
  · simp only [List.mem_cons, List.not_mem_nil, or_false] at member
    rcases member with rfl | rfl
    · decide
    · exact printing
  · exact le_of_mem_code (Mode.toNat_lt_of_isControl control) member

/-- What is written is printing, or stands for itself. -/
theorem mem_escapeFrom {long : Bool} {marks : Nat} {cs : List Char} {d : Char}
    (member : d ∈ escapeFrom long marks cs) : ' ' ≤ d ∨ d ∈ cs ∧ escapeOf? long d = none := by
  induction cs generalizing marks with
  | nil => cases member
  | cons c rest ih =>
    have later {marks : Nat} (member : d ∈ escapeFrom long marks rest) :
        ' ' ≤ d ∨ d ∈ c :: rest ∧ escapeOf? long d = none :=
      (ih member).imp_right fun found => ⟨List.mem_cons_of_mem c found.1, found.2⟩
    unfold escapeFrom at member
    split at member
    next quoted =>
      subst quoted
      split at member
      · rcases List.mem_cons.mp member with rfl | member
        · exact .inl (by decide)
        · exact later member
      · rcases List.mem_cons.mp member with rfl | member
        · exact .inl (by decide)
        rcases List.mem_cons.mp member with rfl | member
        · exact .inl (by decide)
        · exact later member
    next =>
      split at member
      next escaped escapes =>
        rcases List.mem_append.mp member with member | member
        · exact .inl (le_of_mem_escapeOf escapes member)
        · exact later member
      next stands =>
        rcases List.mem_cons.mp member with rfl | member
        · exact .inr ⟨List.mem_cons_self, stands⟩
        · exact later member

namespace Style

def mark (style : Style) : Char := if style.isLiteral then '\'' else '"'

theorem delimiter_eq (style : Style) : style.delimiter = Mode.delimiter style.mark style.isLong := by
  cases style <;> rfl

/-- A style without escapes is chosen for texts that need none. -/
structure Suits (style : Style) (cs : List Char) : Prop where
  plain : ∀ c ∈ cs, isControl c = false
  unbroken : style.isLong = false → '\n' ∉ cs
  few : longestRun '\'' 0 cs ≤ if style.isLong then 2 else 0

theorem ofText_suits (cs : List Char) (literal : (ofText cs).isLiteral) : (ofText cs).Suits cs := by
  cases style : ofText cs with
  | basic | longBasic =>
    rw [style] at literal
    cases literal
  | literal =>
    simp only [ofText] at style
    split_ifs at style with control _ _ single
    simp only [Bool.and_eq_true, Bool.not_eq_true', beq_iff_eq] at single
    exact ⟨by simpa using control, fun _ => by simpa using single.1, Nat.le_of_eq single.2⟩
  | longLiteral =>
    simp only [ofText] at style
    split_ifs at style with control _ _ _ _ few
    exact ⟨by simpa using control, by simp [isLong], few⟩

end Style

/-- What stands between the marks. -/
def body (cs : List Char) : List Char :=
  if (Style.ofText cs).isLiteral then cs else escapeFrom (Style.ofText cs).isLong 0 cs

theorem mem_body {cs : List Char} {d : Char} (member : d ∈ body cs) :
    ' ' ≤ d ∨ d ∈ cs ∧ d ≠ '\r' := by
  unfold body at member
  split at member
  next literal =>
    refine .inr ⟨member, ?_⟩
    rintro rfl
    exact absurd ((Style.ofText_suits cs literal).plain _ member) (by decide)
  next =>
    refine (mem_escapeFrom member).imp_right fun ⟨inside, stands⟩ => ⟨inside, ?_⟩
    rintro rfl
    cases stands

theorem body_extends (cs : List Char) : Mode.Extends (Style.ofText cs).mark (Style.ofText cs).isLong
    (Mode.reading (Style.ofText cs).mark (Style.ofText cs).isLong 0 []) [] cs (body cs) := by
  unfold body Style.mark
  split
  next literal =>
    have suits := Style.ofText_suits cs literal
    exact Mode.extends_literal suits.plain suits.unbroken suits.few (Mode.holds_nil _ _)
  next => exact Mode.extends_escapeFrom cs (Mode.holds_nil _ _)

theorem quote_eq (s : String) : quote s =
    Mode.delimiter (Style.ofText s.toList).mark (Style.ofText s.toList).isLong ++
      (if (Style.ofText s.toList).isLong && s.toList.contains '\n' then ['\n'] else []) ++
      body s.toList ++
      Mode.delimiter (Style.ofText s.toList).mark (Style.ofText s.toList).isLong := by
  simp only [quote, Style.delimiter_eq, body]

/-- The first character of a text on a single line does not end it. -/
theorem body_begins {cs : List Char} (short : (Style.ofText cs).isLong = false) :
    cs = [] ∧ body cs = [] ∨ ∃ c rest, body cs = c :: rest ∧ c ≠ (Style.ofText cs).mark := by
  cases cs with
  | nil => exact .inl ⟨rfl, rfl⟩
  | cons first rest =>
    refine .inr ?_
    unfold body Style.mark
    split
    next literal =>
      refine ⟨first, rest, rfl, ?_⟩
      rintro rfl
      have few := (Style.ofText_suits _ literal).few
      rw [short] at few
      exact absurd (Nat.le_trans (Mode.le_longestRun rest) few) (Nat.not_succ_le_zero 0)
    next =>
      rw [short]
      unfold escapeFrom
      split
      · exact ⟨'\\', _, rfl, by decide⟩
      next unquoted =>
        split
        next escaped escapes =>
          obtain ⟨tail, rfl⟩ := List.head?_eq_some_iff.mp (Mode.head?_escapeOf escapes)
          exact ⟨'\\', _, rfl, by decide⟩
        next => exact ⟨first, _, rfl, unquoted⟩

namespace Mode

variable {mark : Char} {body : List Char} {token : Token} {s : String}

theorem leads_short (isMark : mark = '"' ∨ mark = '\'')
    (begins : body = [] ∧ s = "" ∨ ∃ c rest, body = c :: rest ∧ c ≠ mark)
    (closed : Leads (reading mark false 0 []) (body ++ [mark, '\n']) [.text s false, .newline]
      .between) :
    Leads .between (mark :: (body ++ [mark, '\n'])) [.text s false, .newline] .between := by
  have opens : Mode.between.step mark = some (.opened mark false, []) := by
    rcases isMark with rfl | rfl <;> rfl
  refine .silent opens ?_
  rcases begins with ⟨rfl, rfl⟩ | ⟨c, rest, rfl, other⟩
  · have twice : (Mode.opened mark false).step mark = some (.opened mark true, []) := by
      simp [Mode.step]
    have ends : (Mode.opened mark true).step '\n' =
        some (.between, [.text "" false, .newline]) := by
      rcases isMark with rfl | rfl <;> rfl
    exact .silent twice (.single ends)
  · refine closed.of_step ?_
    simp [Mode.step, reading, inQuote, other]

theorem leads_long (isMark : mark = '"' ∨ mark = '\'') {broken : Bool}
    (begins : broken = false → '\n' ∉ body)
    (closed : Leads (reading mark true 0 []) (body ++ [mark, mark, mark, '\n'])
      [.text s true, .newline] .between) :
    Leads .between (mark :: mark :: mark :: ((if broken then ['\n'] else []) ++
      (body ++ [mark, mark, mark, '\n']))) [.text s true, .newline] .between := by
  have opens : Mode.between.step mark = some (.opened mark false, []) := by
    rcases isMark with rfl | rfl <;> rfl
  have twice : (Mode.opened mark false).step mark = some (.opened mark true, []) := by
    simp [Mode.step]
  have thrice : (Mode.opened mark true).step mark =
      some (.quote ⟨mark, true, []⟩ .fresh, []) := by
    simp [Mode.step]
  refine .silent opens (.silent twice (.silent thrice ?_))
  cases broken with
  | true => exact .silent rfl closed
  | false =>
    have first : ∀ c, c ≠ '\n' →
        (Mode.quote ⟨mark, true, []⟩ .fresh).step c = (reading mark true 0 []).step c := by
      intro c other
      simp [Mode.step, reading, inQuote, other]
    cases body with
    | nil => exact closed.of_step (first mark (by rcases isMark with rfl | rfl <;> decide))
    | cons c rest =>
      refine closed.of_step (first c ?_)
      rintro rfl
      exact begins rfl List.mem_cons_self

end Mode

theorem Style.mark_cases (style : Style) : style.mark = '"' ∨ style.mark = '\'' := by
  cases style
  · exact .inl rfl
  · exact .inr rfl
  · exact .inl rfl
  · exact .inr rfl

/-- A quoted text at the end of a line is read back. -/
theorem leads_quote (s : String) :
    Mode.Leads .between (quote s ++ ['\n'])
      [.text s (Style.ofText s.toList).isLong, .newline] .between := by
  have isMark := (Style.ofText s.toList).mark_cases
  have closed := (body_extends s.toList).close (by rcases isMark with same | same <;> simp [same])
  rw [String.ofList_toList] at closed
  cases long : (Style.ofText s.toList).isLong with
  | false =>
    rw [long] at closed
    have begins := (body_begins long).imp_left fun ⟨empty, nothing⟩ =>
      And.intro nothing (String.toList_eq_nil_iff.mp empty)
    simpa [quote_eq, long, Mode.delimiter] using Mode.leads_short isMark begins closed
  | true =>
    rw [long] at closed
    have begins : s.toList.contains '\n' = false → '\n' ∉ body s.toList := by
      intro unbroken member
      rcases mem_body member with printing | ⟨inside, -⟩
      · exact absurd printing (by decide)
      · simp [inside] at unbroken
    simpa [quote_eq, long, Mode.delimiter] using Mode.leads_long isMark begins closed

theorem return_notMem_quote (s : String) : '\r' ∉ quote s := by
  have marks (long : Bool) : '\r' ∉ Mode.delimiter (Style.ofText s.toList).mark long := by
    rcases (Style.ofText s.toList).mark_cases with same | same <;> cases long <;>
      simp [same, Mode.delimiter]
  have inside : '\r' ∉ body s.toList := by
    intro member
    rcases mem_body member with printing | ⟨-, other⟩
    · exact absurd printing (by decide)
    · exact other rfl
  have lead (broken : Bool) : '\r' ∉ if broken then ['\n'] else [] := by cases broken <;> simp
  rw [quote_eq]
  simp only [List.mem_append, not_or]
  exact ⟨⟨⟨marks _, lead _⟩, inside⟩, marks _⟩

end Skinning.Toml
