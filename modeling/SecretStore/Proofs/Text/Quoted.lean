import SecretStore.Proofs.Text.Hex

/-!
Quoted text. It is printable throughout, and whatever stands behind it, the character that
opens it tells where it ends and its escapes are read one by one. So it says what it quotes,
and what follows.
-/

namespace SecretStore.Text

variable {quote : Char} {cs ds : List CodePoint} {rest rest' : List Char}

def escapeWidth? (letter : Char) : Option Nat :=
  if letter = 'x' then some 2
  else if letter = 'u' then some 4
  else if letter = 'U' then some 8
  else none

def readEscape? : List Char → Option (CodePoint × List Char)
  | [] => none
  | 'n' :: rest => some (.char '\n', rest)
  | 'r' :: rest => some (.char '\r', rest)
  | 't' :: rest => some (.char '\t', rest)
  | letter :: rest => match escapeWidth? letter with
    | some width => some (.ofNat (hexNumber 0 (rest.take width)), rest.drop width)
    | none => some (.char letter, rest)

/-- The first code point of a text in quotes, and what follows it; none where the text ends. -/
def readPoint? (quote : Char) : List Char → Option (CodePoint × List Char)
  | [] => none
  | c :: rest =>
    if c = quote then none else if c = '\\' then readEscape? rest else some (.char c, rest)

def IsQuote (c : Char) : Prop :=
  c = '\'' ∨ c = '"'

theorem isQuote_quoteFor (cs : List CodePoint) : IsQuote (quoteFor cs) := by
  rw [quoteFor]
  split
  · exact .inr rfl
  · exact .inl rfl

theorem readPoint?_quote (quote : Char) (rest : List Char) :
    readPoint? quote (quote :: rest) = none :=
  if_pos rfl

theorem readPoint?_backslash (isQuote : IsQuote quote) (rest : List Char) :
    readPoint? quote ('\\' :: rest) = readEscape? rest := by
  have apart : '\\' ≠ quote := by rcases isQuote with rfl | rfl <;> decide
  rw [readPoint?, if_neg apart, if_pos rfl]

theorem readEscape?_digits {letter : Char} {width : Nat} (hex : escapeWidth? letter = some width)
    {p : CodePoint} (fits : p.toNat < 16 ^ width) (rest : List Char) :
    readEscape? (letter :: (hexDigits width p.toNat ++ rest)) = some (p, rest) := by
  have by_width : readEscape? (letter :: (hexDigits width p.toNat ++ rest)) =
      some (.ofNat (hexNumber 0 ((hexDigits width p.toNat ++ rest).take width)),
        (hexDigits width p.toNat ++ rest).drop width) := by
    rw [readEscape?.eq_def]
    split <;> simp_all [escapeWidth?]
  rw [by_width, List.take_left' (length_hexDigits _ _), List.drop_left' (length_hexDigits _ _),
    hexNumber_hexDigits, Nat.mod_eq_of_lt fits, Nat.zero_mul, Nat.zero_add, CodePoint.ofNat_toNat]

theorem readPoint?_escapeChar (isQuote : IsQuote quote) (c : Char) (rest : List Char) :
    readPoint? quote (escapeChar quote c ++ rest) = some (.char c, rest) := by
  rw [escapeChar]
  split
  · next itself =>
    rw [List.cons_append, readPoint?_backslash isQuote]
    rw [Bool.or_eq_true, beq_iff_eq, beq_iff_eq] at itself
    rcases itself with rfl | rfl
    · rcases isQuote with rfl | rfl <;> rfl
    · rfl
  split
  · next same => rw [beq_iff_eq.mp same]; exact readPoint?_backslash isQuote _
  split
  · next same => rw [beq_iff_eq.mp same]; exact readPoint?_backslash isQuote _
  split
  · next same => rw [beq_iff_eq.mp same]; exact readPoint?_backslash isQuote _
  split
  · next plain _ _ _ _ =>
    rw [Bool.or_eq_true, beq_iff_eq, beq_iff_eq, not_or] at plain
    rw [List.singleton_append, readPoint?, if_neg plain.1, if_neg plain.2]
  split
  · next fits =>
    rw [List.cons_append, List.cons_append, readPoint?_backslash isQuote]
    exact readEscape?_digits (p := .char c) rfl fits rest
  split
  · next fits =>
    rw [List.cons_append, List.cons_append, readPoint?_backslash isQuote]
    exact readEscape?_digits (p := .char c) rfl fits rest
  · rw [List.cons_append, List.cons_append, readPoint?_backslash isQuote]
    exact readEscape?_digits (p := .char c) rfl c.val.toNat_lt rest

theorem readPoint?_escapePoint (isQuote : IsQuote quote) (p : CodePoint) (rest : List Char) :
    readPoint? quote (escapePoint quote p ++ rest) = some (p, rest) := by
  cases p with
  | char c => exact readPoint?_escapeChar isQuote c rest
  | surrogate n =>
    have fits : (CodePoint.surrogate n).toNat < 16 ^ 4 := by
      rw [CodePoint.toNat_surrogate]
      omega
    rw [escapePoint, List.cons_append, List.cons_append, readPoint?_backslash isQuote]
    exact readEscape?_digits rfl fits rest

theorem escape_inj (isQuote : IsQuote quote)
    (same : escape quote cs ++ quote :: rest = escape quote ds ++ quote :: rest') :
    cs = ds ∧ rest = rest' := by
  have front (p : CodePoint) (cs : List CodePoint) (tail : List Char) :
      readPoint? quote (escape quote (p :: cs) ++ tail) = some (p, escape quote cs ++ tail) := by
    rw [escape, List.flatMap_cons, List.append_assoc, readPoint?_escapePoint isQuote, escape]
  -- one code point is read off both sides, or the quote is met on both
  induction cs generalizing ds with
  | nil =>
    cases ds with
    | nil => exact ⟨rfl, (List.cons.inj same).2⟩
    | cons d ds =>
      have read := (readPoint?_quote quote rest).symm.trans (congrArg (readPoint? quote) same)
      rw [front] at read
      cases read
  | cons c cs ih =>
    have read := (front c cs _).symm.trans (congrArg (readPoint? quote) same)
    cases ds with
    | nil => cases read.trans (readPoint?_quote quote rest')
    | cons d ds =>
      rw [front] at read
      obtain ⟨rfl, behind⟩ := Prod.mk.inj (Option.some.inj read)
      obtain ⟨rfl, after⟩ := ih behind
      exact ⟨rfl, after⟩

theorem quotePoints_inj (same : quotePoints cs ++ rest = quotePoints ds ++ rest') :
    cs = ds ∧ rest = rest' := by
  rw [quotePoints, quotePoints] at same
  simp only [List.cons_append, List.append_assoc, List.nil_append] at same
  -- the two texts choose their quotes by themselves, but the first character shows the choice
  obtain ⟨opening, behind⟩ := List.cons.inj same
  rw [opening] at behind
  exact escape_inj (isQuote_quoteFor ds) behind

theorem isPrintable_hexDigit : ∀ d < 16, isPrintable (hexDigit d) = true := by
  decide +kernel

theorem isPrintable_digits {letter : Char} (shown : isPrintable letter = true) (width n : Nat) :
    ∀ c ∈ '\\' :: letter :: hexDigits width n, isPrintable c = true := by
  intro c member
  rcases List.mem_cons.mp member with rfl | member
  · decide +kernel
  rcases List.mem_cons.mp member with rfl | member
  · exact shown
  · obtain ⟨d, small, rfl⟩ := mem_hexDigits member
    exact isPrintable_hexDigit d small

theorem isPrintable_escapeChar (isQuote : IsQuote quote) (c : Char) :
    ∀ d ∈ escapeChar quote c, isPrintable d = true := by
  rw [escapeChar]
  split
  · next itself =>
    rw [Bool.or_eq_true, beq_iff_eq, beq_iff_eq] at itself
    rcases itself with rfl | rfl
    · rcases isQuote with rfl | rfl <;> exact List.all_eq_true.mp (by decide +kernel)
    · exact List.all_eq_true.mp (by decide +kernel)
  split
  · exact List.all_eq_true.mp (by decide +kernel)
  split
  · exact List.all_eq_true.mp (by decide +kernel)
  split
  · exact List.all_eq_true.mp (by decide +kernel)
  split
  · next shown => exact List.forall_mem_singleton.mpr shown
  split
  · exact isPrintable_digits (by decide +kernel) _ _
  split
  · exact isPrintable_digits (by decide +kernel) _ _
  · exact isPrintable_digits (by decide +kernel) _ _

theorem isPrintable_escapePoint (isQuote : IsQuote quote) (p : CodePoint) :
    ∀ d ∈ escapePoint quote p, isPrintable d = true := by
  cases p with
  | char c => exact isPrintable_escapeChar isQuote c
  | surrogate n => exact isPrintable_digits (by decide +kernel) _ _

theorem isPrintable_quotePoints (cs : List CodePoint) :
    ∀ c ∈ quotePoints cs, isPrintable c = true := by
  have isQuote := isQuote_quoteFor cs
  have shown : isPrintable (quoteFor cs) = true := by
    rcases isQuote with same | same <;> rw [same] <;> decide +kernel
  intro c member
  rw [quotePoints, List.cons_append, List.mem_cons, List.mem_append, List.mem_singleton] at member
  rcases member with rfl | escaped | rfl
  · exact shown
  · obtain ⟨d, -, member⟩ := List.mem_flatMap.mp escaped
    exact isPrintable_escapePoint isQuote d c member
  · exact shown

end SecretStore.Text
