import Mathlib.Algebra.Order.Field.Basic
import Mathlib.Tactic.Linarith
import AprsWx.Lib.Numeral

/-!
# The language of strtod

The floating numerals as the C standard describes them, and that `strtod` takes a text
whole exactly when it is one of them (`strtod_takes_iff`). What a short one can denote
(`IsFloating.number_bounds`).
-/

namespace Numeral

/-! ## The grammar -/

/-- Digits, at least one, with or without a point. -/
inductive IsMantissa (digit : Char → Bool) : List Char → Prop
  | whole {ds : List Char} : (∀ c ∈ ds, digit c) → ds ≠ [] → IsMantissa digit ds
  | point {ds fs : List Char} : (∀ c ∈ ds, digit c) → (∀ c ∈ fs, digit c) → ds ++ fs ≠ [] →
      IsMantissa digit (ds ++ '.' :: fs)

inductive IsSign : List Char → Prop
  | absent : IsSign []
  | minus : IsSign ['-']
  | plus : IsSign ['+']

/-- Nothing, or the letter `mark` and an integer. -/
inductive IsExponent (mark : Char) : List Char → Prop
  | absent : IsExponent mark []
  | part {c : Char} {sgn ds : List Char} : c.toLower = mark → IsSign sgn →
      (∀ d ∈ ds, d.isDigit) → ds ≠ [] → IsExponent mark (c :: (sgn ++ ds))

/-- The word `w` in any case. -/
def IsWord (w : String) (s : List Char) : Prop := s.map Char.toLower = w.toList

inductive IsUnsigned : List Char → Prop
  | decimal {m e : List Char} : IsMantissa Char.isDigit m → IsExponent 'e' e → IsUnsigned (m ++ e)
  | hexadecimal {x : Char} {m e : List Char} : x.toLower = 'x' → IsMantissa isHexDigit m →
      IsExponent 'p' e → IsUnsigned ('0' :: x :: (m ++ e))
  | inf {s : List Char} : IsWord "inf" s → IsUnsigned s
  | infinity {s : List Char} : IsWord "infinity" s → IsUnsigned s
  | nan {s : List Char} : IsWord "nan" s → IsUnsigned s
  | nanTag {s tag : List Char} : IsWord "nan" s → (∀ c ∈ tag, c.isAlphanum || c = '_') →
      IsUnsigned (s ++ '(' :: (tag ++ [')']))

/-- White space, a sign and a numeral. -/
inductive IsFloating : List Char → Prop
  | mk {blank sgn body : List Char} : (∀ c ∈ blank, isspace c) → IsSign sgn → IsUnsigned body →
      IsFloating (blank ++ (sgn ++ body))

/-! ## What strtod takes is a numeral -/

theorem takeWhile_append_drop {α : Type} (p : α → Bool) (l : List α) :
    l.takeWhile p ++ l.drop (l.takeWhile p).length = l := by
  have start := List.takeWhile_prefix (l := l) p
  exact List.prefix_iff_eq_append.mp start

theorem mantissa_sound {digit : Char → Bool} {s : List Char} {m : Mantissa}
    (read : mantissa digit s = some m) :
    ∃ text rest, s = text ++ rest ∧ text.length = m.length ∧ IsMantissa digit text := by
  have split := takeWhile_append_drop digit s
  have digits : ∀ c ∈ s.takeWhile digit, digit c := fun c mem => List.mem_takeWhile_imp mem
  unfold mantissa at read
  generalize s.takeWhile digit = whole at read split digits
  dsimp only at read
  split at read
  · next rest after =>
    have split' := takeWhile_append_drop digit rest
    have digits' : ∀ c ∈ rest.takeWhile digit, digit c := fun c mem => List.mem_takeWhile_imp mem
    generalize rest.takeWhile digit = frac at read split' digits'
    split at read
    · cases read
    · next nonempty =>
      obtain rfl := Option.some.inj read
      refine ⟨whole ++ '.' :: frac, rest.drop frac.length, ?_, ?_, .point digits digits' ?_⟩
      · rw [List.append_assoc, List.cons_append, split', ← after, split]
      · simp only [List.length_append, List.length_cons]
        omega
      · simpa using nonempty
  · next other =>
    split at read
    · cases read
    · next nonempty =>
      obtain rfl := Option.some.inj read
      exact ⟨whole, s.drop whole.length, split.symm, rfl, .whole digits (by simpa using nonempty)⟩

theorem sign_sound (s : List Char) :
    ∃ text rest, s = text ++ rest ∧ text.length = (sign s).2 ∧ IsSign text := by
  unfold sign
  split
  · exact ⟨['-'], _, rfl, rfl, .minus⟩
  · exact ⟨['+'], _, rfl, rfl, .plus⟩
  · exact ⟨[], s, rfl, rfl, .absent⟩

theorem exponent_sound (mark : Char) (s : List Char) :
    ∃ text rest, s = text ++ rest ∧ text.length = (exponent mark s).2 ∧ IsExponent mark text := by
  cases s with
  | nil => exact ⟨[], [], rfl, rfl, .absent⟩
  | cons c s =>
    obtain ⟨sgn, rest, rfl, length, isSign⟩ := sign_sound s
    have split := takeWhile_append_drop Char.isDigit rest
    have digits : ∀ c ∈ rest.takeWhile Char.isDigit, c.isDigit := fun c mem =>
      List.mem_takeWhile_imp mem
    have after : (sgn ++ rest).drop (sign (sgn ++ rest)).2 = rest := List.drop_left' length
    unfold exponent
    dsimp only
    rw [after]
    generalize rest.takeWhile Char.isDigit = ds at split digits
    split
    · next part =>
      refine ⟨c :: (sgn ++ ds), rest.drop ds.length, ?_, ?_, .part part.1 isSign digits part.2⟩
      · rw [List.cons_append, List.append_assoc, split]
      · simp only [List.length_cons, List.length_append]
        omega
    · exact ⟨[], _, rfl, rfl, .absent⟩

theorem decimal_sound {s : List Char} {q : Magnitude} {k : Nat} (read : decimal s = some (q, k)) :
    ∃ text rest, s = text ++ rest ∧ text.length = k ∧ IsUnsigned text := by
  unfold decimal at read
  split at read
  · cases read
  · next m whole =>
    obtain ⟨text, rest, rfl, length, isMantissa⟩ := mantissa_sound whole
    obtain ⟨text', rest', rfl, length', isExponent⟩ := exponent_sound 'e' rest
    rw [List.drop_left' length] at read
    have taken : m.length + (exponent 'e' (text' ++ rest')).2 = k :=
      congrArg Prod.snd (Option.some.inj read)
    refine ⟨text ++ text', rest', (List.append_assoc _ _ _).symm, ?_, .decimal isMantissa isExponent⟩
    rw [List.length_append, length, length', taken]

theorem hexadecimal_sound {s : List Char} {q : Magnitude} {k : Nat}
    (read : hexadecimal s = some (q, k)) :
    ∃ text rest, s = text ++ rest ∧ text.length = k ∧ IsUnsigned text := by
  unfold hexadecimal at read
  split at read
  · next x s =>
    split at read
    · next letter =>
      split at read
      · cases read
      · next m whole =>
        obtain ⟨text, rest, rfl, length, isMantissa⟩ := mantissa_sound whole
        obtain ⟨text', rest', rfl, length', isExponent⟩ := exponent_sound 'p' rest
        rw [List.drop_left' length] at read
        have taken : 2 + m.length + (exponent 'p' (text' ++ rest')).2 = k :=
          congrArg Prod.snd (Option.some.inj read)
        refine ⟨'0' :: x :: (text ++ text'), rest', ?_, ?_,
          .hexadecimal letter isMantissa isExponent⟩
        · simp only [List.cons_append, List.append_assoc]
        · simp only [List.length_cons, List.length_append, length, length']
          omega
    · cases read
  · cases read

theorem hasWord_sound {w : String} {s : List Char} (read : hasWord w s) :
    ∃ text rest, s = text ++ rest ∧ text.length = w.length ∧ IsWord w text := by
  have word := of_decide_eq_true read
  refine ⟨s.take w.length, s.drop w.length, (List.take_append_drop _ _).symm, ?_, word⟩
  have length := congrArg List.length word
  rwa [List.length_map, String.length_toList] at length

theorem nanTag_sound (s : List Char) :
    nanTag s = 0 ∨ ∃ tag rest, s = '(' :: (tag ++ [')']) ++ rest ∧ tag.length + 2 = nanTag s ∧
      ∀ c ∈ tag, c.isAlphanum || c = '_' := by
  unfold nanTag
  split
  · next s =>
    have split := takeWhile_append_drop (fun c => c.isAlphanum || c = '_') s
    have tagged : ∀ c ∈ s.takeWhile (fun c => c.isAlphanum || c = '_'),
        c.isAlphanum || c = '_' := fun c mem =>
      List.mem_takeWhile_imp (p := fun c => c.isAlphanum || c = '_') mem
    dsimp only
    generalize s.takeWhile (fun c => c.isAlphanum || c = '_') = tag at split tagged ⊢
    split
    · next rest after =>
      refine .inr ⟨tag, rest, ?_, rfl, tagged⟩
      rw [← split, after]
      simp only [List.cons_append, List.append_assoc, List.nil_append]
    · exact .inl rfl
  · exact .inl rfl

theorem unsignedNumeral_sound {s : List Char} {q : Magnitude} {k : Nat}
    (read : unsignedNumeral s = some (q, k)) :
    ∃ text rest, s = text ++ rest ∧ text.length = k ∧ IsUnsigned text := by
  unfold unsignedNumeral at read
  split at read
  · next word =>
    obtain ⟨text, rest, rfl, length, isWord⟩ := hasWord_sound word
    obtain ⟨-, rfl⟩ := Prod.mk.inj (Option.some.inj read)
    exact ⟨text, rest, rfl, length, .infinity isWord⟩
  · split at read
    · next word =>
      obtain ⟨text, rest, rfl, length, isWord⟩ := hasWord_sound word
      obtain ⟨-, rfl⟩ := Prod.mk.inj (Option.some.inj read)
      exact ⟨text, rest, rfl, length, .inf isWord⟩
    · split at read
      · next word =>
        obtain ⟨text, rest, rfl, length, isWord⟩ := hasWord_sound word
        obtain ⟨-, rfl⟩ := Prod.mk.inj (Option.some.inj read)
        rw [List.drop_left' (show text.length = 3 from length)]
        rcases nanTag_sound rest with untagged | ⟨tag, rest', rfl, length', tagged⟩
        · exact ⟨text, rest, rfl, by rw [untagged]; exact length, .nan isWord⟩
        · refine ⟨text ++ '(' :: (tag ++ [')']), rest', (List.append_assoc _ _ _).symm, ?_,
            .nanTag isWord tagged⟩
          rw [← length', List.length_append, show text.length = 3 from length]
          simp only [List.length_cons, List.length_append, List.length_nil]
      · split at read
        · next r hex =>
          obtain rfl := Option.some.inj read
          exact hexadecimal_sound hex
        · exact decimal_sound read

/-- What `strtod` takes, unless it is nothing, is a numeral. -/
theorem strtod_sound (s : List Char) :
    (strtod s).2 = 0 ∨ ∃ text rest, s = text ++ rest ∧ text.length = (strtod s).2 ∧
      IsFloating text := by
  have split := takeWhile_append_drop isspace s
  have spaces : ∀ c ∈ s.takeWhile isspace, isspace c := fun c mem => List.mem_takeWhile_imp mem
  unfold strtod
  generalize s.takeWhile isspace = blank at split spaces
  obtain ⟨sgn, rest, after, length, isSign⟩ := sign_sound (s.drop blank.length)
  dsimp only
  rw [← List.drop_drop, after, List.drop_left' (length.trans (by rw [after]))]
  split
  · next q k read =>
    obtain ⟨body, rest', rfl, length', isUnsigned⟩ := unsignedNumeral_sound read
    refine .inr ⟨blank ++ (sgn ++ body), rest', ?_, ?_, .mk spaces isSign isUnsigned⟩
    · rw [← split, after]
      simp only [List.append_assoc]
    · rw [← after, List.length_append, List.length_append, length, length', Nat.add_assoc]
  · exact .inl rfl

/-! ## A numeral is taken whole -/

/-- A run of characters ends where the next one is none of theirs. -/
theorem takeWhile_append_stop {α : Type} {p : α → Bool} {run rest : List α}
    (inside : ∀ a ∈ run, p a) (stop : ∀ a ∈ rest.head?, p a = false) :
    (run ++ rest).takeWhile p = run := by
  rw [List.takeWhile_append_of_pos inside]
  cases rest with
  | nil => rw [List.takeWhile_nil, List.append_nil]
  | cons a rest => rw [List.takeWhile_cons, stop a rfl, if_neg Bool.false_ne_true, List.append_nil]

theorem mantissa_complete {digit : Char → Bool} (point : digit '.' = false) {text rest : List Char}
    (isMantissa : IsMantissa digit text) (stop : ∀ c ∈ rest.head?, digit c = false ∧ c ≠ '.') :
    ∃ m, mantissa digit (text ++ rest) = some m ∧ m.length = text.length := by
  have stop' : ∀ c ∈ rest.head?, digit c = false := fun c mem => (stop c mem).1
  cases isMantissa with
  | whole digits nonempty =>
    unfold mantissa
    dsimp only
    rw [takeWhile_append_stop digits stop', List.drop_left]
    split
    · next rest' => exact absurd rfl (stop '.' rfl).2
    · rw [if_neg (by simpa using nonempty)]
      exact ⟨_, rfl, rfl⟩
  | @point ds fs digits digits' nonempty =>
    have inside : (ds ++ '.' :: fs ++ rest).takeWhile digit = ds := by
      rw [List.append_assoc]
      refine takeWhile_append_stop digits ?_
      rintro c ⟨⟩
      exact point
    unfold mantissa
    dsimp only
    rw [inside, List.append_assoc, List.drop_left, List.cons_append]
    split
    · next rest' equal =>
      obtain ⟨-, rfl⟩ := List.cons.inj equal
      rw [takeWhile_append_stop digits' stop', if_neg (by simpa using nonempty)]
      refine ⟨_, rfl, ?_⟩
      simp only [List.length_append, List.length_cons]
      omega
    · next other => exact absurd rfl (other _)

theorem sign_complete {sgn rest : List Char} (isSign : IsSign sgn)
    (unsigned : ∀ c ∈ rest.head?, c ≠ '-' ∧ c ≠ '+') :
    sign (sgn ++ rest) = (decide (sgn = ['-']), sgn.length) := by
  cases isSign with
  | absent =>
    rw [List.nil_append]
    unfold sign
    split
    · exact absurd rfl (unsigned '-' rfl).1
    · exact absurd rfl (unsigned '+' rfl).2
    · rfl
  | minus => rfl
  | plus => rfl

theorem exponent_complete {mark : Char} {text : List Char} (isExponent : IsExponent mark text) :
    (exponent mark text).2 = text.length := by
  cases isExponent with
  | absent => rfl
  | @part c sgn ds letter isSign digits nonempty =>
    have first : ∀ c ∈ ds.head?, c ≠ '-' ∧ c ≠ '+' := fun c mem =>
      IsPlain.not_sign (.inl (digits c (List.mem_of_mem_head? mem)))
    have signed := sign_complete isSign first
    unfold exponent
    dsimp only
    rw [signed]
    dsimp only
    rw [List.drop_left, takeWhile_digits digits, if_pos ⟨letter, nonempty⟩]
    simp only [List.length_cons, List.length_append]
    omega

/-- The mantissa ends where the exponent part starts. -/
theorem IsExponent.stop {mark : Char} {digit : Char → Bool} {text : List Char}
    (isExponent : IsExponent mark text)
    (other : ∀ c : Char, c.toLower = mark → digit c = false ∧ c ≠ '.') :
    ∀ c ∈ text.head?, digit c = false ∧ c ≠ '.' := by
  cases isExponent with
  | absent => exact fun c mem => absurd mem (Option.not_mem_none c)
  | part letter _ _ _ =>
    rintro c ⟨⟩
    exact other _ letter

/-! ### Characters -/

theorem not_digit_of_letter {c : Char} (letter : c.toLower = 'e') : c.isDigit = false ∧ c ≠ '.' := by
  have other : ¬ IsPlain c := fun plain =>
    IsPlain.elim (P := fun c => c.toLower ≠ 'e') (by decide) (by decide) plain letter
  exact ⟨Bool.eq_false_iff.mpr fun digit => other (.inl digit), fun point => other (.inr point)⟩

theorem not_hexDigit_of_letter {c : Char} (letter : c.toLower = 'p') :
    isHexDigit c = false ∧ c ≠ '.' := by
  have other : ¬ IsPlain c := fun plain =>
    IsPlain.elim (P := fun c => c.toLower ≠ 'p') (by decide) (by decide) plain letter
  have digit : c.isDigit = false := Bool.eq_false_iff.mpr fun digit => other (.inl digit)
  refine ⟨?_, fun point => other (.inr point)⟩
  unfold isHexDigit
  rw [digit, letter]
  rfl

theorem IsMantissa.mem {digit : Char → Bool} {text : List Char}
    (isMantissa : IsMantissa digit text) : ∀ c ∈ text, digit c ∨ c = '.' := by
  cases isMantissa with
  | whole digits _ => exact fun c mem => .inl (digits c mem)
  | point digits digits' _ =>
    intro c mem
    rcases List.mem_append.mp mem with mem | mem
    · exact .inl (digits c mem)
    · rcases List.mem_cons.mp mem with rfl | mem
      · exact .inr rfl
      · exact .inl (digits' c mem)

theorem IsMantissa.ne_nil {digit : Char → Bool} {text : List Char}
    (isMantissa : IsMantissa digit text) : text ≠ [] := by
  cases isMantissa with
  | whole _ nonempty => exact nonempty
  | point _ _ _ => exact List.append_ne_nil_of_right_ne_nil _ (List.cons_ne_nil _ _)

theorem IsSign.mem {sgn : List Char} (isSign : IsSign sgn) : ∀ c ∈ sgn, c ∈ ['-', '+'] := by
  cases isSign with
  | absent => exact List.forall_mem_nil _
  | minus => exact List.forall_mem_singleton.mpr List.mem_cons_self
  | plus => exact List.forall_mem_singleton.mpr (List.mem_cons_of_mem _ List.mem_cons_self)

theorem IsExponent.mem {mark : Char} {text : List Char} (isExponent : IsExponent mark text) :
    ∀ c ∈ text, c.toLower = mark ∨ c ∈ ['-', '+'] ∨ c.isDigit := by
  cases isExponent with
  | absent => exact fun c mem => absurd mem List.not_mem_nil
  | part letter isSign digits _ =>
    intro c mem
    rcases List.mem_cons.mp mem with rfl | mem
    · exact .inl letter
    · rcases List.mem_append.mp mem with mem | mem
      · exact .inr (.inl (isSign.mem c mem))
      · exact .inr (.inr (digits c mem))

/-- No word and no hexadecimal numeral starts in a decimal numeral. -/
theorem decimal_other {m e : List Char} (isMantissa : IsMantissa Char.isDigit m)
    (isExponent : IsExponent 'e' e) : ∀ c ∈ m ++ e, c.toLower ∉ ['i', 'n', 'x'] := by
  have signs : ∀ c ∈ ['-', '+'], c.toLower ∉ ['i', 'n', 'x'] :=
    List.forall_mem_cons.mpr ⟨by decide, List.forall_mem_singleton.mpr (by decide)⟩
  intro c mem
  rcases List.mem_append.mp mem with mem | mem
  · exact IsPlain.toLower_notMem (isMantissa.mem c mem)
  · rcases isExponent.mem c mem with letter | sgn | digit
    · rw [letter]
      decide
    · exact signs c sgn
    · exact IsPlain.toLower_notMem (.inl digit)

/-! ### Numerals -/

theorem decimal_complete {m e : List Char} (isMantissa : IsMantissa Char.isDigit m)
    (isExponent : IsExponent 'e' e) : ∃ q, decimal (m ++ e) = some (q, (m ++ e).length) := by
  obtain ⟨read, whole, length⟩ := mantissa_complete (by decide) isMantissa
    (isExponent.stop fun c => not_digit_of_letter)
  unfold decimal
  rw [whole]
  dsimp only
  rw [length, List.drop_left, exponent_complete isExponent, ← List.length_append]
  exact ⟨_, rfl⟩

theorem hexadecimal_complete {x : Char} {m e : List Char} (letter : x.toLower = 'x')
    (isMantissa : IsMantissa isHexDigit m) (isExponent : IsExponent 'p' e) :
    ∃ q, hexadecimal ('0' :: x :: (m ++ e)) = some (q, ('0' :: x :: (m ++ e)).length) := by
  obtain ⟨read, whole, length⟩ := mantissa_complete (by decide) isMantissa
    (isExponent.stop fun c => not_hexDigit_of_letter)
  have total : ('0' :: x :: (m ++ e)).length = 2 + m.length + e.length := by
    simp only [List.length_cons, List.length_append]
    omega
  rw [hexadecimal.eq_1, if_pos letter, whole]
  dsimp only
  rw [length, List.drop_left, exponent_complete isExponent, total]
  exact ⟨_, rfl⟩

theorem IsWord.length {w : String} {s : List Char} (word : IsWord w s) : s.length = w.length := by
  have length := congrArg List.length word
  rwa [List.length_map, String.length_toList] at length

theorem IsWord.head {w : String} {a : Char} {as s : List Char} (word : IsWord w s)
    (start : w.toList = a :: as) : ∃ c rest, s = c :: rest ∧ c.toLower = a := by
  unfold IsWord at word
  rw [start] at word
  cases s with
  | nil => cases word
  | cons c rest => exact ⟨c, rest, rfl, (List.cons.inj word).1⟩

theorem hasWord_complete {w : String} {s : List Char} (word : IsWord w s) (rest : List Char) :
    hasWord w (s ++ rest) := by
  unfold hasWord
  rw [List.take_left' word.length]
  exact decide_eq_true word

theorem nanTag_complete {tag : List Char} (tagged : ∀ c ∈ tag, c.isAlphanum || c = '_') :
    nanTag ('(' :: (tag ++ [')'])) = tag.length + 2 := by
  have inside : (tag ++ [')']).takeWhile (fun c => c.isAlphanum || c = '_') = tag := by
    refine takeWhile_append_stop tagged ?_
    rintro c ⟨⟩
    decide
  rw [nanTag.eq_1, inside, List.drop_left]
  rfl

theorem unsignedNumeral_nan {word : List Char} (isWord : IsWord "nan" word) (rest : List Char) :
    unsignedNumeral (word ++ rest) = some (.nan, 3 + nanTag rest) := by
  obtain ⟨c, word', rfl, letter⟩ := isWord.head (a := 'n') rfl
  have other : ∀ d ∈ (c :: word' ++ rest).head?, d.toLower ≠ 'i' := by
    rintro d ⟨⟩
    rw [letter]
    decide
  unfold unsignedNumeral
  rw [hasWord_eq_false 'i' "nfinity".toList rfl other, hasWord_eq_false 'i' "nf".toList rfl other,
    hasWord_complete isWord _, List.drop_left' (show (c :: word').length = 3 from isWord.length)]
  rfl

theorem unsignedNumeral_complete {s : List Char} (isUnsigned : IsUnsigned s) :
    ∃ q, unsignedNumeral s = some (q, s.length) := by
  cases isUnsigned with
  | decimal isMantissa isExponent =>
    rw [unsignedNumeral_other (decimal_other isMantissa isExponent)]
    exact decimal_complete isMantissa isExponent
  | hexadecimal letter isMantissa isExponent =>
    obtain ⟨q, hex⟩ := hexadecimal_complete letter isMantissa isExponent
    unfold unsignedNumeral
    rw [hasWord_eq_false 'i' "nfinity".toList rfl (by rintro c ⟨⟩; decide),
      hasWord_eq_false 'i' "nf".toList rfl (by rintro c ⟨⟩; decide),
      hasWord_eq_false 'n' "an".toList rfl (by rintro c ⟨⟩; decide), hex]
    exact ⟨q, rfl⟩
  | inf word =>
    have short : hasWord "infinity" s = false := by
      refine decide_eq_false fun long => ?_
      have length := congrArg List.length long
      rw [List.length_map, List.length_take, word.length] at length
      revert length
      decide
    have found := hasWord_complete word []
    rw [List.append_nil] at found
    unfold unsignedNumeral
    rw [short, found, word.length]
    exact ⟨_, rfl⟩
  | infinity word =>
    have found := hasWord_complete word []
    rw [List.append_nil] at found
    unfold unsignedNumeral
    rw [found, word.length]
    exact ⟨_, rfl⟩
  | nan word =>
    have read := unsignedNumeral_nan word []
    rw [List.append_nil] at read
    rw [read, word.length]
    exact ⟨_, rfl⟩
  | nanTag word tagged =>
    rw [unsignedNumeral_nan word, nanTag_complete tagged]
    refine ⟨.nan, congrArg (fun n => some (Magnitude.nan, n)) ?_⟩
    rw [List.length_append, word.length]
    simp only [List.length_cons, List.length_append, List.length_nil]
    rfl

theorem IsWord.start {w : String} {a : Char} {as s : List Char} (word : IsWord w s)
    (spelled : w.toList = a :: as) (letter : a ∈ ['i', 'n']) :
    ∃ c rest, s = c :: rest ∧ (IsPlain c ∨ c.toLower ∈ ['i', 'n']) := by
  obtain ⟨c, rest, rfl, rfl⟩ := word.head spelled
  exact ⟨c, rest, rfl, .inr letter⟩

/-- A numeral starts with a digit, a point or a letter. -/
theorem IsUnsigned.head {s : List Char} (isUnsigned : IsUnsigned s) :
    ∃ c rest, s = c :: rest ∧ (IsPlain c ∨ c.toLower ∈ ['i', 'n']) := by
  cases isUnsigned with
  | decimal isMantissa _ =>
    obtain ⟨c, rest, rfl⟩ := List.exists_cons_of_ne_nil isMantissa.ne_nil
    exact ⟨c, _, rfl, .inl (isMantissa.mem c List.mem_cons_self)⟩
  | hexadecimal _ _ _ => exact ⟨'0', _, rfl, .inl (.inl rfl)⟩
  | inf word => exact word.start (a := 'i') rfl (by decide)
  | infinity word => exact word.start (a := 'i') rfl (by decide)
  | nan word => exact word.start (a := 'n') rfl (by decide)
  | nanTag word _ =>
    obtain ⟨c, rest, rfl, first⟩ := word.start (a := 'n') rfl (by decide)
    exact ⟨c, _, rfl, first⟩

/-- Neither white space nor a sign is the start of an unsigned numeral. -/
theorem IsUnsigned.start {s : List Char} (isUnsigned : IsUnsigned s) :
    ∀ c ∈ s.head?, isspace c = false ∧ c ≠ '-' ∧ c ≠ '+' := by
  obtain ⟨c, rest, rfl, first⟩ := isUnsigned.head
  rintro d ⟨⟩
  rcases first with plain | letter
  · exact ⟨plain.isspace, plain.not_sign⟩
  · have other : c ∉ [' ', '\t', '\n', '\x0b', '\x0c', '\r', '-', '+'] := by
      have unlettered : [' ', '\t', '\n', '\x0b', '\x0c', '\r', '-', '+'].all
          (fun c => c.toLower ∉ ['i', 'n']) := by decide
      exact fun mem => of_decide_eq_true (List.all_eq_true.mp unlettered c mem) letter
    simpa [isspace, not_or, and_assoc] using other

/-- The parts of a numeral are what `strtod` reads. -/
theorem strtod_parts {blank sgn body : List Char} (spaces : ∀ c ∈ blank, isspace c)
    (isSign : IsSign sgn) (isUnsigned : IsUnsigned body) :
    ∃ q, unsignedNumeral body = some (q, body.length) ∧
      strtod (blank ++ (sgn ++ body)) =
        (⟨decide (sgn = ['-']), q⟩, (blank ++ (sgn ++ body)).length) := by
  have start := isUnsigned.start
  have unspaced : ∀ c ∈ (sgn ++ body).head?, isspace c = false := by
    cases isSign with
    | absent => exact fun c mem => (start c mem).1
    | minus =>
      rintro c ⟨⟩
      rfl
    | plus =>
      rintro c ⟨⟩
      rfl
  obtain ⟨q, read⟩ := unsignedNumeral_complete isUnsigned
  have signed := sign_complete isSign fun c mem => (start c mem).2
  refine ⟨q, read, ?_⟩
  unfold strtod
  rw [takeWhile_append_stop spaces unspaced]
  dsimp only
  rw [List.drop_left, signed]
  dsimp only
  rw [← List.drop_drop, List.drop_left, List.drop_left, read]
  simp only [List.length_append, Nat.add_assoc]

theorem strtod_complete {s : List Char} (isFloating : IsFloating s) : (strtod s).2 = s.length := by
  cases isFloating with
  | mk spaces isSign isUnsigned =>
    obtain ⟨q, -, read⟩ := strtod_parts spaces isSign isUnsigned
    rw [read]

theorem IsWord.notMem {w : String} {s : List Char} (word : IsWord w s) {c : Char}
    (other : c.toLower ∉ w.toList) : c ∉ s :=
  fun mem => other (word ▸ List.mem_map.mpr ⟨c, mem, rfl⟩)

theorem IsMantissa.notMem {digit : Char → Bool} {m : List Char} (isMantissa : IsMantissa digit m)
    {c : Char} (other : digit c = false) (point : c ≠ '.') : c ∉ m := by
  intro mem
  rcases isMantissa.mem _ mem with inside | equal
  · exact Bool.false_ne_true (other.symm.trans inside)
  · exact point equal

theorem IsExponent.nul_notMem {mark : Char} {e : List Char} (isExponent : IsExponent mark e)
    (other : mark ≠ '\x00') : '\x00' ∉ e := by
  intro mem
  rcases isExponent.mem _ mem with letter | sgn | digit
  · exact other letter.symm
  · exact absurd sgn (by decide)
  · exact absurd digit (by decide)

theorem IsUnsigned.nul_notMem {s : List Char} (isUnsigned : IsUnsigned s) : '\x00' ∉ s := by
  cases isUnsigned with
  | decimal isMantissa isExponent =>
    exact List.not_mem_append (isMantissa.notMem (by decide) (by decide))
      (isExponent.nul_notMem (by decide))
  | hexadecimal letter isMantissa isExponent =>
    have digits := List.not_mem_append (isMantissa.notMem (c := '\x00') (by decide) (by decide))
      (isExponent.nul_notMem (by decide))
    refine List.not_mem_cons_of_ne_of_not_mem (by decide)
      (List.not_mem_cons_of_ne_of_not_mem ?_ digits)
    rintro rfl
    exact absurd letter (by decide)
  | inf word => exact word.notMem (by decide)
  | infinity word => exact word.notMem (by decide)
  | nan word => exact word.notMem (by decide)
  | nanTag word tagged =>
    refine List.not_mem_append (word.notMem (by decide)) ?_
    refine List.not_mem_cons_of_ne_of_not_mem (by decide) (List.not_mem_append ?_ (by decide))
    exact fun mem => absurd (tagged _ mem) (by decide)

/-- A numeral is a C string: it has no terminator in it. -/
theorem IsFloating.nul_notMem {s : List Char} (isFloating : IsFloating s) : '\x00' ∉ s := by
  cases isFloating with
  | mk spaces isSign isUnsigned =>
    refine List.not_mem_append (fun mem => absurd (spaces _ mem) (by decide)) ?_
    exact List.not_mem_append (fun mem => absurd (isSign.mem _ mem) (by decide))
      isUnsigned.nul_notMem

/-- `strtod` takes exactly the floating numerals whole. -/
theorem strtod_takes_iff {s : List Char} : s ≠ [] ∧ s.length ≤ (strtod s).2 ↔ IsFloating s := by
  constructor
  · rintro ⟨nonempty, whole⟩
    have positive := List.length_pos_iff.mpr nonempty
    rcases strtod_sound s with nothing | ⟨text, rest, split, length, isFloating⟩
    · omega
    · have same := congrArg List.length split
      rw [List.length_append] at same
      obtain rfl : rest = [] := List.eq_nil_of_length_eq_zero (by omega)
      rw [split, List.append_nil]
      exact isFloating
  · intro isFloating
    refine ⟨?_, (strtod_complete isFloating).ge⟩
    cases isFloating with
    | @mk blank sgn body _ _ isUnsigned =>
      obtain ⟨c, rest, rfl, -⟩ := isUnsigned.head
      simp

/-! ## Short numerals

A numeral of two characters has no room for an exponent, a word or a hexadecimal prefix. -/

theorem decimal_nonneg {s : List Char} {q : ℚ} {k : Nat} (read : decimal s = some (.finite q, k)) :
    0 ≤ q := by
  unfold decimal at read
  split at read
  · cases read
  · cases read
    exact mul_nonneg (Nat.cast_nonneg _) (zpow_nonneg (by norm_num) _)

theorem hexadecimal_nonneg {s : List Char} {q : ℚ} {k : Nat}
    (read : hexadecimal s = some (.finite q, k)) : 0 ≤ q := by
  unfold hexadecimal at read
  split at read
  · split at read
    · split at read
      · cases read
      · cases read
        exact mul_nonneg (Nat.cast_nonneg _) (zpow_nonneg (by norm_num) _)
    · cases read
  · cases read

theorem unsignedNumeral_nonneg {s : List Char} {q : ℚ} {k : Nat}
    (read : unsignedNumeral s = some (.finite q, k)) : 0 ≤ q := by
  unfold unsignedNumeral at read
  split at read
  · cases read
  · split at read
    · cases read
    · split at read
      · cases read
      · split at read
        · next hex =>
          cases read
          exact hexadecimal_nonneg hex
        · exact decimal_nonneg read

theorem IsUnsigned.isMantissa {s : List Char} (isUnsigned : IsUnsigned s) (short : s.length ≤ 2) :
    IsMantissa Char.isDigit s := by
  have word : ∀ {w : String} {s : List Char}, IsWord w s → 3 ≤ w.length → ¬ s.length ≤ 2 := by
    intro w s word long
    rw [word.length]
    exact Nat.not_le.mpr long
  cases isUnsigned with
  | @decimal m e isMantissa isExponent =>
    cases isExponent with
    | absent =>
      rw [List.append_nil]
      exact isMantissa
    | part _ _ _ nonempty =>
      have mantissa := List.length_pos_iff.mpr isMantissa.ne_nil
      have digits := List.length_pos_iff.mpr nonempty
      simp only [List.length_append, List.length_cons] at short
      omega
  | hexadecimal _ isMantissa _ =>
    have mantissa := List.length_pos_iff.mpr isMantissa.ne_nil
    simp only [List.length_append, List.length_cons] at short
    omega
  | inf isWord => exact absurd short (word isWord (by decide))
  | infinity isWord => exact absurd short (word isWord (by decide))
  | nan isWord => exact absurd short (word isWord (by decide))
  | nanTag isWord _ =>
    rw [List.length_append] at short
    exact absurd (le_of_add_le_left short) (word isWord (by decide))

/-- A mantissa of `n` characters is below the power of ten. -/
theorem IsMantissa.number_lt {s : List Char} (isMantissa : IsMantissa Char.isDigit s) {q : ℚ} {k : Nat}
    (read : decimal s = some (.finite q, k)) : q ≤ 10 ^ s.length - 1 := by
  have below : ∀ {ds : List Char}, (∀ c ∈ ds, c.isDigit) →
      (decimalValue ds : ℚ) ≤ 10 ^ ds.length - 1 := by
    intro ds digits
    rw [le_sub_iff_add_le]
    exact_mod_cast decimalValue_lt digits
  cases isMantissa with
  | whole digits nonempty =>
    rw [decimal_digits digits nonempty] at read
    cases read
    exact below digits
  | @point ds fs digits digits' nonempty =>
    rw [decimal_point digits digits' nonempty] at read
    cases read
    have both : ∀ c ∈ ds ++ fs, c.isDigit := by
      intro c mem
      exact (List.mem_append.mp mem).elim (digits c) (digits' c)
    have shorter : (ds ++ fs).length ≤ (ds ++ '.' :: fs).length := by
      simp only [List.length_append, List.length_cons]
      omega
    calc (decimalValue (ds ++ fs) / 10 ^ fs.length : ℚ)
        ≤ decimalValue (ds ++ fs) := div_le_self (Nat.cast_nonneg _) (one_le_pow₀ (by norm_num))
      _ ≤ 10 ^ (ds ++ fs).length - 1 := below both
      _ ≤ 10 ^ (ds ++ '.' :: fs).length - 1 :=
        sub_le_sub_right (pow_le_pow_right₀ (by norm_num) shorter) 1

theorem IsUnsigned.number_le {s : List Char} (isUnsigned : IsUnsigned s) (short : s.length ≤ 2)
    {q : ℚ} {k : Nat} (read : unsignedNumeral s = some (.finite q, k)) : q ≤ 99 := by
  have isMantissa := isUnsigned.isMantissa short
  rw [unsignedNumeral_plain isMantissa.mem] at read
  calc q ≤ 10 ^ s.length - 1 := isMantissa.number_lt read
    _ ≤ 10 ^ 2 - 1 := sub_le_sub_right (pow_le_pow_right₀ (by norm_num) short) 1
    _ = 99 := by norm_num

/-- A number in three characters is at least -99, since the sign takes one of them, and one in two
characters is at most 99. -/
theorem IsFloating.number_bounds {s : List Char} (isFloating : IsFloating s) {q : ℚ}
    (number : (strtod s).1.number = some q) :
    (s.length ≤ 3 → -99 ≤ q) ∧ (s.length ≤ 2 → q ≤ 99) := by
  cases isFloating with
  | @mk blank sgn body spaces isSign isUnsigned =>
    obtain ⟨magnitude, unsigned, read⟩ := strtod_parts spaces isSign isUnsigned
    rw [read] at number
    cases magnitude with
    | infinity => cases number
    | nan => cases number
    | finite m =>
      cases number
      have nonneg := unsignedNumeral_nonneg unsigned
      have length : (blank ++ (sgn ++ body)).length = blank.length + (sgn.length + body.length) := by
        rw [List.length_append, List.length_append]
      rw [length]
      by_cases minus : sgn = ['-']
      · subst minus
        have least : 1 + body.length ≤ 3 → m ≤ 99 := fun short =>
          isUnsigned.number_le (by omega) unsigned
        rw [if_pos (decide_eq_true rfl), List.length_singleton]
        constructor
        · intro short
          exact neg_le_neg (least ((Nat.le_add_left _ _).trans short))
        · intro _
          linarith
      · rw [if_neg (by simpa using minus)]
        constructor
        · intro _
          linarith
        · intro short
          exact isUnsigned.number_le (by omega) unsigned

end Numeral
