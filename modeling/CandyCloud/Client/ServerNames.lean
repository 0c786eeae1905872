import CandyCloud.Client.Envelopes

/-! # Names of servers

The scanner of `is_valid_dns_name` reads a name byte by byte with a state of four values.
What it accepts is a grammar: labels between dots, with at most one dot at the end.
-/

namespace CandyCloud

def labelByte (byte : UInt8) : Bool :=
  asciiLower byte || asciiUpper byte || byte == 95 || asciiDigit byte || byte == 45

structure IsDnsLabel (label : Bytes) : Prop where
  nonempty : 0 < label.length
  short : label.length ≤ 63
  bytes : ∀ byte ∈ label, labelByte byte = true
  starts : label.head? ≠ some 45
  ends : label.getLast? ≠ some 45

def withoutFinalDot (text : Bytes) : Bytes :=
  if text.getLast? = some 46 then text.dropLast else text

/-- Labels between dots, the last of which is not a number. -/
structure IsDotted (text : Bytes) : Prop where
  labels : ∀ label ∈ text.splitOn 46, IsDnsLabel label
  last : ∀ label, (text.splitOn 46).getLast? = some label → label.all asciiDigit = false

/-- A name as the certificates allow it. -/
structure IsDnsName (text : Bytes) : Prop where
  nonempty : 1 ≤ text.length
  short : text.length ≤ 253
  dotted : IsDotted (withoutFinalDot text)

def LabelState.of (front : Bytes) : LabelState :=
  if front = [] then .start
  else if front.getLast? = some 45 then .endsInHyphen
  else if front.all asciiDigit then .allNumeric
  else .hasLetter

def LabelState.digit : LabelState → LabelState
  | .start | .allNumeric => .allNumeric
  | .hasLetter | .endsInHyphen => .hasLetter

theorem dnsNameFrom_cons (state : LabelState) (length : Nat) (byte : UInt8) (rest : Bytes) :
    dnsNameFrom state length (byte :: rest) =
      if asciiLower byte || asciiUpper byte || byte == 95 then dnsNameFrom .hasLetter (length + 1) rest
      else if asciiDigit byte then dnsNameFrom state.digit (length + 1) rest
      else if byte == 46 then
        state.ends length &&
          (if rest.isEmpty then state != .allNumeric else dnsNameFrom .start 0 rest)
      else if byte == 45 then decide (0 < length) && dnsNameFrom .endsInHyphen (length + 1) rest
      else false := by
  cases state <;> rfl

/-- The label read so far could go on. -/
structure Front (front : Bytes) : Prop where
  bytes : ∀ byte ∈ front, labelByte byte = true
  starts : front.head? ≠ some 45

section Bytes

variable {front : Bytes} {byte : UInt8}

theorem LabelState.of_append : LabelState.of (front ++ [byte]) =
    if byte = 45 then .endsInHyphen
    else if (front ++ [byte]).all asciiDigit then .allNumeric
    else .hasLetter := by
  simp [LabelState.of]

theorem LabelState.of_letter (letter : asciiDigit byte = false) (plain : byte ≠ 45) :
    LabelState.of (front ++ [byte]) = .hasLetter := by
  simp [LabelState.of_append, letter, plain]

theorem LabelState.of_digit (digit : asciiDigit byte = true) :
    LabelState.of (front ++ [byte]) = (LabelState.of front).digit := by
  have plain : byte ≠ 45 := by
    rintro rfl
    exact absurd digit (by decide)
  rw [LabelState.of_append, if_neg plain, List.all_append]
  by_cases none : front = []
  · simp [none, digit, LabelState.of, LabelState.digit]
  · by_cases hyphen : front.getLast? = some 45
    · have letter : front.all asciiDigit = false := by
        rw [List.all_eq_false]
        exact ⟨45, List.mem_of_getLast? hyphen, by decide⟩
      simp [none, hyphen, letter, LabelState.of, LabelState.digit]
    · cases numeric : front.all asciiDigit with
      | true => simp [none, hyphen, numeric, digit, LabelState.of, LabelState.digit]
      | false => simp [none, hyphen, numeric, LabelState.of, LabelState.digit]

theorem LabelState.of_hyphen : LabelState.of (front ++ [45]) = .endsInHyphen := by
  rw [LabelState.of_append, if_pos rfl]

theorem Front.append (part : Front front) (inside : labelByte byte = true)
    (later : front = [] → byte ≠ 45) : Front (front ++ [byte]) := by
  constructor
  · intro other member
    cases List.mem_append.mp member with
    | inl before => exact part.bytes other before
    | inr now =>
        rw [List.mem_singleton.mp now]
        exact inside
  · cases front with
    | nil => simpa using later rfl
    | cons first rest => simpa using part.starts

theorem Front.undotted (part : Front front) : (46 : UInt8) ∉ front := by
  intro dotted
  have inside := part.bytes 46 dotted
  exact absurd inside (by decide)

theorem Front.label_iff (part : Front front) :
    (LabelState.of front).ends front.length = true ↔ IsDnsLabel front := by
  have state : front ≠ [] → (LabelState.of front ≠ .endsInHyphen ↔ front.getLast? ≠ some 45) := by
    intro some
    unfold LabelState.of
    rw [if_neg some]
    split
    · rename_i hyphen
      simp [hyphen]
    · rename_i plain
      split <;> simp [plain]
  simp only [LabelState.ends, Bool.and_eq_true, decide_eq_true_eq, bne_iff_ne]
  constructor
  · rintro ⟨⟨nonempty, short⟩, ends⟩
    exact ⟨nonempty, short, part.bytes, part.starts,
      (state (List.ne_nil_of_length_pos nonempty)).mp ends⟩
  · intro label
    exact ⟨⟨label.nonempty, label.short⟩,
      (state (List.ne_nil_of_length_pos label.nonempty)).mpr label.ends⟩

theorem LabelState.of_numeric (label : IsDnsLabel front) :
    LabelState.of front ≠ .allNumeric ↔ front.all asciiDigit = false := by
  have some : front ≠ [] := List.ne_nil_of_length_pos label.nonempty
  unfold LabelState.of
  rw [if_neg some, if_neg label.ends]
  split
  · rename_i numeric
    simp [numeric]
  · rename_i letter
    simp [letter]

end Bytes

theorem withoutFinalDot_cons (front : Bytes) {rest : Bytes} (more : rest ≠ []) (byte : UInt8) :
    withoutFinalDot (front ++ byte :: rest) = front ++ byte :: withoutFinalDot rest := by
  obtain ⟨before, last, rfl⟩ : ∃ before last, rest = before ++ [last] :=
    ⟨rest.dropLast, rest.getLast more, (List.dropLast_append_getLast more).symm⟩
  have whole : front ++ byte :: (before ++ [last]) = (front ++ byte :: before) ++ [last] := by simp
  rw [whole]
  unfold withoutFinalDot
  rw [List.getLast?_concat, List.getLast?_concat, List.dropLast_concat, List.dropLast_concat]
  split
  · rfl
  · exact whole.symm

theorem withoutFinalDot_mem {text : Bytes} {byte : UInt8} (member : byte ∈ text)
    (plain : byte ≠ 46) : byte ∈ withoutFinalDot text := by
  unfold withoutFinalDot
  split
  · rename_i dotted
    obtain ⟨before, rfl⟩ := List.getLast?_eq_some_iff.mp dotted
    rw [List.dropLast_concat]
    simpa [plain] using member
  · exact member

theorem withoutFinalDot_undotted {text : Bytes} (undotted : (46 : UInt8) ∉ text) :
    withoutFinalDot text = text := by
  rw [withoutFinalDot, if_neg]
  intro dotted
  exact undotted (List.mem_of_getLast? dotted)

theorem isDotted_single {label : Bytes} (undotted : (46 : UInt8) ∉ label) :
    IsDotted label ↔ IsDnsLabel label ∧ label.all asciiDigit = false := by
  have parts := List.splitOn_eq_singleton undotted
  constructor
  · intro dotted
    exact ⟨dotted.labels label (by simp [parts]), dotted.last label (by simp [parts])⟩
  · rintro ⟨valid, letter⟩
    constructor
    · intro other member
      rw [parts, List.mem_singleton] at member
      rwa [member]
    · intro other final
      rw [parts] at final
      rwa [← Option.some.inj final]

theorem isDotted_cons {label rest : Bytes} (undotted : (46 : UInt8) ∉ label) :
    IsDotted (label ++ 46 :: rest) ↔ IsDnsLabel label ∧ IsDotted rest := by
  have parts := List.splitOn_append_cons_self_of_not_mem undotted rest
  have final : (label :: rest.splitOn 46).getLast? = (rest.splitOn 46).getLast? := by
    cases split : rest.splitOn 46 with
    | nil => exact absurd split (List.splitOn_ne_nil 46 rest)
    | cons next others => rw [List.getLast?_cons_cons]
  constructor
  · intro dotted
    refine ⟨dotted.labels label (by simp [parts]), ?_, ?_⟩
    · intro other member
      exact dotted.labels other (by simp [parts, member])
    · intro other last
      exact dotted.last other (by rw [parts, final, last])
  · rintro ⟨valid, later⟩
    constructor
    · intro other member
      rw [parts] at member
      cases List.mem_cons.mp member with
      | inl first => rwa [first]
      | inr behind => exact later.labels other behind
    · intro other last
      rw [parts, final] at last
      exact later.last other last

theorem not_isDotted {text : Bytes} {byte : UInt8} (member : byte ∈ text) (plain : byte ≠ 46)
    (outside : labelByte byte = false) : ¬ IsDotted text := by
  intro dotted
  rcases mem_splitOn 46 member with dot | ⟨part, listed, inside⟩
  · exact plain dot
  · have allowed := (dotted.labels part listed).bytes byte inside
    rw [outside] at allowed
    cases allowed

theorem not_isDotted_hyphen (rest : Bytes) : ¬ IsDotted (45 :: rest) := by
  intro dotted
  cases parts : rest.splitOn 46 with
  | nil => exact absurd parts (List.splitOn_ne_nil 46 rest)
  | cons part others =>
      have first := dotted.labels (45 :: part)
        (by rw [List.splitOn_cons_eq_if_modifyHead, parts]; simp)
      exact first.starts rfl

/-- The scan goes on behind a label read so far: by induction on what is left, with the
    state and the length of that label. -/
theorem dnsNameFrom_iff (rest : Bytes) : ∀ front, Front front →
    (dnsNameFrom (LabelState.of front) front.length rest = true ↔
      IsDotted (withoutFinalDot (front ++ rest))) := by
  induction rest with
  | nil =>
      intro front part
      rw [List.append_nil, withoutFinalDot_undotted part.undotted, isDotted_single part.undotted,
        dnsNameFrom, Bool.and_eq_true, part.label_iff, bne_iff_ne]
      exact and_congr_right fun label => LabelState.of_numeric label
  | cons byte rest ih =>
      intro front part
      have next : (front ++ [byte]).length = front.length + 1 := by simp
      have shift : front ++ byte :: rest = (front ++ [byte]) ++ rest := by simp
      by_cases letter : (asciiLower byte || asciiUpper byte || byte == 95) = true
      · have plain : byte ≠ 45 := by
          rintro rfl
          exact absurd letter (by decide)
        have nondigit : asciiDigit byte = false := by
          cases digit : asciiDigit byte with
          | false => rfl
          | true =>
              simp only [asciiLower, asciiUpper, asciiDigit, Bool.or_eq_true, Bool.and_eq_true,
                decide_eq_true_eq, beq_iff_eq, UInt8.le_iff_toNat_le, ← UInt8.toNat_inj,
                UInt8.reduceToNat] at letter digit
              omega
        have whole := ih (front ++ [byte])
          (part.append (by simp [labelByte, letter]) fun _ => plain)
        rw [LabelState.of_letter nondigit plain, next, ← shift] at whole
        rw [dnsNameFrom_cons, if_pos letter]
        exact whole
      · by_cases digit : asciiDigit byte = true
        · have plain : byte ≠ 45 := by
            rintro rfl
            exact absurd digit (by decide)
          have whole := ih (front ++ [byte])
            (part.append (by simp [labelByte, digit]) fun _ => plain)
          rw [LabelState.of_digit digit, next, ← shift] at whole
          rw [dnsNameFrom_cons, if_neg letter, if_pos digit]
          exact whole
        · by_cases dot : byte = 46
          · subst dot
            rw [dnsNameFrom_cons, if_neg letter, if_neg digit, if_pos (by decide), Bool.and_eq_true,
              part.label_iff]
            cases rest with
            | nil =>
                have ended : withoutFinalDot (front ++ [46]) = front := by simp [withoutFinalDot]
                rw [ended, isDotted_single part.undotted]
                refine and_congr_right fun label => ?_
                rw [← LabelState.of_numeric label]
                simp
            | cons first others =>
                rw [withoutFinalDot_cons front (by simp), isDotted_cons part.undotted]
                exact and_congr_right fun _ => ih [] ⟨by simp, by simp⟩
          · by_cases hyphen : byte = 45
            · subst hyphen
              rw [dnsNameFrom_cons, if_neg letter, if_neg digit, if_neg (by decide), if_pos (by decide),
                Bool.and_eq_true, decide_eq_true_eq]
              cases front with
              | nil =>
                  refine iff_of_false (by simp) ?_
                  cases rest with
                  | nil => exact not_isDotted_hyphen []
                  | cons first others =>
                      rw [withoutFinalDot_cons [] (by simp)]
                      exact not_isDotted_hyphen _
              | cons first others =>
                  have whole := ih (first :: others ++ [45])
                    (part.append (by decide) (by simp))
                  rw [LabelState.of_hyphen, next, ← shift] at whole
                  rw [← whole]
                  simp
            · have outside : labelByte byte = false := by
                simp only [Bool.or_eq_true, not_or] at letter
                simp [labelByte, letter, digit, hyphen]
              rw [dnsNameFrom_cons, if_neg letter, if_neg digit, if_neg (by simpa using dot),
                if_neg (by simpa using hyphen)]
              refine iff_of_false (by simp) ?_
              exact not_isDotted (withoutFinalDot_mem (by simp) dot) dot outside

/-- The scanner accepts exactly the names of the grammar. -/
theorem dns_names (text : Bytes) : isValidDnsName text = true ↔ IsDnsName text := by
  have scanned := dnsNameFrom_iff text [] ⟨by simp, by simp⟩
  rw [isValidDnsName, Bool.and_eq_true, Bool.and_eq_true, decide_eq_true_eq]
  constructor
  · rintro ⟨⟨some, short⟩, scan⟩
    refine ⟨?_, short, scanned.mp scan⟩
    cases text with
    | nil => cases some
    | cons first rest => simp
  · intro name
    refine ⟨⟨?_, name.short⟩, scanned.mpr name.dotted⟩
    cases text with
    | nil => exact absurd name.nonempty (by simp)
    | cons first rest => rfl

end CandyCloud
