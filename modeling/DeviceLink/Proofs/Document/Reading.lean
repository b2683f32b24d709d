import DeviceLink.Proofs.Document.Arrangement
import DeviceLink.Proofs.Document.Dict
import DeviceLink.Proofs.Document.Integer
import DeviceLink.Proofs.Document.Text

/-!
# Documents read back

The reader takes exactly what was written for a document and leaves what stands
behind it, as long as that would not continue a number.  The induction is on how
the document is spelled.  It carries the depth that is still allowed and the fuel:
a value needs two for each of its characters, a list of items or members one
more, which the bracket before it has paid for.
-/

namespace DeviceLink.Document

/-! ## Where a value begins -/

def openings : List Char := ['n', 't', 'f', '"', '[', '\x7b']

theorem readValue_eq_readNumber {c : Char} (plain : c ∉ openings) (depth fuel : Nat)
    (cs : List Char) : readValue depth (fuel + 1) (c :: cs) = readNumber (c :: cs) := by
  simp only [openings, List.mem_cons, List.not_mem_nil, or_false, not_or] at plain
  obtain ⟨hn, ht, hf, hquote, hbracket, hbrace⟩ := plain
  apply readValue.eq_8
  · exact fun _ h => hn (List.cons.inj h).1
  · exact fun _ h => ht (List.cons.inj h).1
  · exact fun _ h => hf (List.cons.inj h).1
  · exact fun _ h => hquote (List.cons.inj h).1
  · exact fun _ h => hbracket (List.cons.inj h).1
  · exact fun _ h => hbrace (List.cons.inj h).1

theorem readNumber_eq_none {c : Char} (noMinus : c ≠ '-') (noDigit : c.isDigit = false)
    (cs : List Char) : readNumber (c :: cs) = none := by
  have hdigit : digit? c = none := by rw [digit?, noDigit]; rfl
  have hwhole : readWhole (c :: cs) = none := by simp [readWhole, takeDigits?, takeDigits, hdigit]
  have hnumeral : readNumeral (c :: cs) = none := by
    rw [readNumeral.eq_2 (c :: cs) fun more h => noMinus (List.cons.inj h).1, hwhole]
    rfl
  rw [readNumber, hnumeral]
  rfl

def noValue : List Char := [' ', '\t', '\n', '\r', ']']

theorem readValue_eq_none {c : Char} (h : c ∈ noValue) (depth fuel : Nat) (cs : List Char) :
    readValue depth fuel (c :: cs) = none := by
  have hchar : ∀ c ∈ noValue, c ∉ openings ∧ c ≠ '-' ∧ c.isDigit = false := by
    simp [noValue, openings]
  obtain ⟨plain, noMinus, noDigit⟩ := hchar c h
  cases fuel with
  | zero => rfl
  | succ fuel => rw [readValue_eq_readNumber plain, readNumber_eq_none noMinus noDigit]

theorem skipBlanks_cons {c : Char} (h : isBlank c = false) (cs : List Char) :
    skipBlanks (c :: cs) = c :: cs := by
  simp [skipBlanks, h]

@[simp] theorem skipBlanks_comma (cs : List Char) : skipBlanks (',' :: cs) = ',' :: cs :=
  skipBlanks_cons rfl cs

@[simp] theorem skipBlanks_colon (cs : List Char) : skipBlanks (':' :: cs) = ':' :: cs :=
  skipBlanks_cons rfl cs

@[simp] theorem skipBlanks_bracket (cs : List Char) : skipBlanks (']' :: cs) = ']' :: cs :=
  skipBlanks_cons rfl cs

@[simp] theorem skipBlanks_brace (cs : List Char) : skipBlanks ('\x7d' :: cs) = '\x7d' :: cs :=
  skipBlanks_cons rfl cs

/-- What is read as a value begins with neither a blank nor a closing bracket. -/
theorem starts_of_readValue {depth fuel : Nat} {cs : List Char} {found : Document × List Char}
    (h : readValue depth fuel cs = some found) :
    skipBlanks cs = cs ∧ ∀ more, cs ≠ ']' :: more := by
  cases cs with
  | nil => exact ⟨rfl, fun _ h => nomatch h⟩
  | cons c cs =>
      have hc : c ∉ noValue := by
        intro hc
        rw [readValue_eq_none hc] at h
        cases h
      simp only [noValue, List.mem_cons, List.not_mem_nil, or_false, not_or] at hc
      obtain ⟨hspace, htab, hnewline, hreturn, hbracket⟩ := hc
      refine ⟨skipBlanks_cons ?_ cs, fun _ h => hbracket (List.cons.inj h).1⟩
      simp [isBlank, hspace, htab, hnewline, hreturn]

theorem starts_of_readItems {depth fuel : Nat} {cs : List Char}
    {found : List Document × List Char} (h : readItems depth fuel cs = some found) :
    skipBlanks cs = cs ∧ ∀ more, cs ≠ ']' :: more := by
  cases fuel with
  | zero => cases h
  | succ fuel =>
      rw [readItems] at h
      split at h
      · cases h
      · next hvalue => exact starts_of_readValue hvalue

theorem starts_of_readMembers {depth fuel : Nat} {cs : List Char}
    {found : List (String × Document) × List Char}
    (h : readMembers depth fuel cs = some found) :
    skipBlanks cs = cs ∧ ∀ more, cs ≠ '\x7d' :: more := by
  cases fuel with
  | zero => cases h
  | succ fuel =>
      cases cs with
      | nil => cases h
      | cons c cs =>
          have hc : c = '"' := by
            by_contra hc
            rw [readMembers.eq_3 _ _ _ fun _ h => hc (List.cons.inj h).1] at h
            cases h
          subst hc
          exact ⟨skipBlanks_cons rfl cs, fun _ h => nomatch h⟩

/-! ## One value, one item, one member -/

theorem endsNumber_comma (cs : List Char) : EndsNumber (',' :: cs) := by
  simp [EndsNumber]

theorem endsNumber_bracket (cs : List Char) : EndsNumber (']' :: cs) := by
  simp [EndsNumber]

theorem endsNumber_brace (cs : List Char) : EndsNumber ('\x7d' :: cs) := by
  simp [EndsNumber]

theorem writeInt_cons (n : Int) : ∃ c cs, writeInt n = c :: cs ∧ c ∉ openings := by
  have hplain : ∀ c : Char, c.isDigit = true → c ∉ openings := by
    intro c hdigit hc
    have hopen : ∀ c ∈ openings, c.isDigit = false := by simp [openings]
    rw [hopen c hc] at hdigit
    cases hdigit
  rw [writeInt]
  split
  · exact ⟨'-', _, rfl, by decide⟩
  · cases hdigits : Nat.toDigits 10 n.natAbs with
    | nil => exact absurd hdigits Nat.toDigits_ne_nil
    | cons c cs =>
        have hmem : c ∈ Nat.toDigits 10 n.natAbs := hdigits ▸ List.mem_cons_self
        exact ⟨c, cs, rfl, hplain c (Nat.isDigit_of_mem_toDigits (by decide) (by decide) hmem)⟩

variable {depth fuel : Nat} {cs rest more : List Char} {d : Document}

theorem readValue_word (w : Word) (ends : EndsNumber rest) :
    readValue depth (fuel + 1) (writeInt w.val ++ rest) = some (word w, rest) := by
  obtain ⟨c, cs, hwrite, plain⟩ := writeInt_cons w.val
  have hread := readNumber_writeInt w ends
  rw [hwrite, List.cons_append] at hread ⊢
  rw [readValue_eq_readNumber plain, hread]

theorem writeText_append (s : String) (rest : List Char) :
    writeText s ++ rest = '"' :: (s.toList.flatMap escape ++ '"' :: rest) := by
  simp [writeText]

theorem readValue_text (s : String) :
    readValue depth (fuel + 1) (writeText s ++ rest) = some (text s, rest) := by
  rw [writeText_append, readValue, readText_escape]
  rfl

theorem readItems_last (value : readValue depth fuel cs = some (d, ']' :: rest)) :
    readItems depth (fuel + 1) cs = some ([d], rest) := by
  simp only [readItems, value, skipBlanks_bracket]

theorem readItems_more {ds : List Document}
    (value : readValue depth fuel cs = some (d, ',' :: more))
    (items : readItems depth fuel more = some (ds, rest)) :
    readItems depth (fuel + 1) cs = some (d :: ds, rest) := by
  simp only [readItems, value, skipBlanks_comma, (starts_of_readItems items).1, items,
    Option.map_some]

theorem readValue_array_nil :
    readValue (depth + 1) (fuel + 1) ('[' :: ']' :: rest) = some (array [], rest) := by
  simp [readValue]

theorem readValue_array {ds : List Document} (items : readItems depth fuel cs = some (ds, rest)) :
    readValue (depth + 1) (fuel + 1) ('[' :: cs) = some (array ds, rest) := by
  obtain ⟨hskip, hopen⟩ := starts_of_readItems items
  rw [readValue, if_neg (Nat.succ_ne_zero depth), hskip]
  split
  · next more => exact absurd rfl (hopen more)
  · rw [Nat.add_sub_cancel, items]
    rfl

theorem readMembers_last (key : String)
    (value : readValue depth fuel cs = some (d, '\x7d' :: rest)) :
    readMembers depth (fuel + 1) (writeText key ++ ':' :: cs) = some ([(key, d)], rest) := by
  rw [writeText_append]
  simp only [readMembers, readText_escape, skipBlanks_colon, (starts_of_readValue value).1, value,
    skipBlanks_brace]

theorem readMembers_more (key : String) {entries : List (String × Document)}
    (value : readValue depth fuel cs = some (d, ',' :: more))
    (members : readMembers depth fuel more = some (entries, rest)) :
    readMembers depth (fuel + 1) (writeText key ++ ':' :: cs) =
      some ((key, d) :: entries, rest) := by
  rw [writeText_append]
  simp only [readMembers, readText_escape, skipBlanks_colon, (starts_of_readValue value).1, value,
    skipBlanks_comma, (starts_of_readMembers members).1, members, Option.map_some]

theorem readValue_object_nil :
    readValue (depth + 1) (fuel + 1) ('\x7b' :: '\x7d' :: rest) =
      some (object Dict.empty, rest) := by
  simp [readValue]

theorem readValue_object {entries : List (String × Document)}
    (members : readMembers depth fuel cs = some (entries, rest)) :
    readValue (depth + 1) (fuel + 1) ('\x7b' :: cs) = some (ofMembers entries, rest) := by
  obtain ⟨hskip, hopen⟩ := starts_of_readMembers members
  rw [readValue, if_neg (Nat.succ_ne_zero depth), hskip]
  split
  · next more => exact absurd rfl (hopen more)
  · rw [Nat.add_sub_cancel, members]
    rfl

/-! ## A whole document -/

theorem writeItems_cons {items : List Tree} (some_item : items ≠ []) (t : Tree) :
    Tree.writeItems (t :: items) = t.write ++ ',' :: Tree.writeItems items := by
  cases items with
  | nil => exact absurd rfl some_item
  | cons next items => rfl

theorem writeMembers_cons {members : List (String × Tree)} (some_member : members ≠ [])
    (key : String) (t : Tree) :
    Tree.writeMembers ((key, t) :: members) =
      writeText key ++ ':' :: (t.write ++ ',' :: Tree.writeMembers members) := by
  cases members with
  | nil => exact absurd rfl some_member
  | cons next members => rfl

theorem write_length_pos {t : Tree} (spelled : t.Spells d) (single : d.DoubleFree) :
    0 < t.write.length := by
  cases spelled with
  | bool b => cases b <;> exact Nat.succ_pos _
  | word n =>
      obtain ⟨c, cs, hwrite, -⟩ := writeInt_cons n.val
      rw [Tree.write, hwrite]
      exact Nat.succ_pos _
  | double x => exact single.elim
  | _ => exact Nat.succ_pos _

mutual

theorem readValue_write : ∀ {t : Tree} {d : Document}, t.Spells d →
    ∀ {depth fuel : Nat} {rest : List Char}, d.DoubleFree → d.depth ≤ depth →
      2 * t.write.length ≤ fuel + 1 → EndsNumber rest →
        readValue depth (fuel + 1) (t.write ++ rest) = some (d, rest)
  | _, _, .null, _, _, _, _, _, _, _ => rfl
  | _, _, .bool true, _, _, _, _, _, _, _ => rfl
  | _, _, .bool false, _, _, _, _, _, _, _ => rfl
  | _, _, .word n, _, _, _, _, _, _, ends => readValue_word n ends
  | _, _, .double _, _, _, _, single, _, _, _ => single.elim
  | _, _, .text s, _, _, _, _, _, _, _ => readValue_text s
  | .array items, .array ds, .array each, depth, fuel, rest, single, shallow, enough, _ => by
      have hpos : 0 < depth := Nat.lt_of_lt_of_le (depth_array_pos ds) shallow
      obtain ⟨depth, rfl⟩ := Nat.exists_eq_succ_of_ne_zero (Nat.ne_of_gt hpos)
      -- Nothing is read as an item of an array that is closed at once.
      by_cases hempty : items = []
      · subst hempty
        cases each
        exact readValue_array_nil
      · have hwrite : (Tree.array items).write ++ rest =
            '[' :: (Tree.writeItems items ++ ']' :: rest) := by
          simp [Tree.write]
        have hlength : (Tree.array items).write.length = (Tree.writeItems items).length + 2 := by
          simp [Tree.write]
        obtain ⟨fuel, rfl⟩ : ∃ k, fuel = k + 1 := ⟨fuel - 1, by omega⟩
        rw [hwrite]
        apply readValue_array
        apply readItems_write each hempty _ (by omega)
        intro d hd
        exact ⟨doubleFree_array.mp single d hd, depth_array_le.mp shallow d hd⟩
  | .object members, .object dict, .object each order, depth, fuel, rest, single, shallow,
      enough, _ => by
      have hpos : 0 < depth := Nat.lt_of_lt_of_le (depth_object_pos dict) shallow
      obtain ⟨depth, rfl⟩ := Nat.exists_eq_succ_of_ne_zero (Nat.ne_of_gt hpos)
      by_cases hempty : members = []
      · subst hempty
        cases each
        have hdict : dict = Dict.empty := Dict.ext (List.nil_perm.mp order)
        rw [hdict]
        exact readValue_object_nil
      · have hwrite : (Tree.object members).write ++ rest =
            '\x7b' :: (Tree.writeMembers members ++ '\x7d' :: rest) := by
          simp [Tree.write]
        have hlength : (Tree.object members).write.length =
            (Tree.writeMembers members).length + 2 := by
          simp [Tree.write]
        obtain ⟨fuel, rfl⟩ : ∃ k, fuel = k + 1 := ⟨fuel - 1, by omega⟩
        -- The entries come in the order of the tree, which the dictionary forgets.
        rw [hwrite, ← Dict.ofList_of_perm order]
        apply readValue_object
        apply readMembers_write each hempty _ (by omega)
        intro m hm
        have hm := order.mem_iff.mp hm
        exact ⟨doubleFree_object.mp single m hm, depth_object_le.mp shallow m hm⟩

theorem readItems_write : ∀ {items : List Tree} {ds : List Document}, Tree.SpellsItems items ds →
    items ≠ [] → ∀ {depth fuel : Nat} {rest : List Char},
      (∀ d ∈ ds, d.DoubleFree ∧ d.depth ≤ depth) → 2 * (Tree.writeItems items).length ≤ fuel →
        readItems depth (fuel + 1) (Tree.writeItems items ++ ']' :: rest) = some (ds, rest)
  | _, _, .nil, h, _, _, _, _, _ => absurd rfl h
  | t :: items, d :: ds, .cons first more, _, depth, fuel, rest, each, enough => by
      obtain ⟨⟨single, shallow⟩, each⟩ := List.forall_mem_cons.mp each
      have hpos := write_length_pos first single
      -- The writer puts a comma behind an item only if another one follows.
      by_cases hempty : items = []
      · subst hempty
        cases more
        have hwrite : Tree.writeItems [t] = t.write := rfl
        rw [hwrite] at enough ⊢
        obtain ⟨fuel, rfl⟩ : ∃ k, fuel = k + 1 := ⟨fuel - 1, by omega⟩
        apply readItems_last
        exact readValue_write first single shallow enough (endsNumber_bracket rest)
      · rw [writeItems_cons hempty t] at enough ⊢
        rw [List.length_append, List.length_cons] at enough
        obtain ⟨fuel, rfl⟩ : ∃ k, fuel = k + 1 := ⟨fuel - 1, by omega⟩
        rw [List.append_assoc]
        apply readItems_more
        · exact readValue_write first single shallow (by omega) (endsNumber_comma _)
        · exact readItems_write more hempty each (by omega)

theorem readMembers_write : ∀ {members : List (String × Tree)} {entries : List (String × Document)},
    Tree.SpellsMembers members entries → members ≠ [] →
      ∀ {depth fuel : Nat} {rest : List Char},
        (∀ e ∈ entries, e.2.DoubleFree ∧ e.2.depth ≤ depth) →
          2 * (Tree.writeMembers members).length ≤ fuel →
            readMembers depth (fuel + 1) (Tree.writeMembers members ++ '\x7d' :: rest) =
              some (entries, rest)
  | _, _, .nil, h, _, _, _, _, _ => absurd rfl h
  | (key, t) :: members, (_, d) :: entries, .cons first more, _, depth, fuel, rest, each,
      enough => by
      obtain ⟨⟨single, shallow⟩, each⟩ := List.forall_mem_cons.mp each
      have hpos := write_length_pos first single
      by_cases hempty : members = []
      · subst hempty
        cases more
        have hwrite : Tree.writeMembers [(key, t)] = writeText key ++ ':' :: t.write := rfl
        rw [hwrite] at enough ⊢
        rw [List.length_append, List.length_cons] at enough
        obtain ⟨fuel, rfl⟩ : ∃ k, fuel = k + 1 := ⟨fuel - 1, by omega⟩
        rw [List.append_assoc]
        apply readMembers_last
        exact readValue_write first single shallow (by omega) (endsNumber_brace rest)
      · rw [writeMembers_cons hempty key t] at enough ⊢
        simp only [List.length_append, List.length_cons] at enough
        obtain ⟨fuel, rfl⟩ : ∃ k, fuel = k + 1 := ⟨fuel - 1, by omega⟩
        rw [List.append_assoc, List.cons_append, List.append_assoc]
        apply readMembers_more
        · exact readValue_write first single shallow (by omega) (endsNumber_comma _)
        · exact readMembers_write more hempty each (by omega)

end

/-- What is written for a document is read as this document: its texts may hold
any characters, its integers are words, and only its depth is limited. -/
theorem ofText?_write {t : Tree} {d : Document} (spelled : t.Spells d) (single : d.DoubleFree)
    (shallow : d.depth ≤ nestingLimit) : ofText? (String.ofList t.write) = some d := by
  have hread : readValue nestingLimit (2 * t.write.length + 2) (t.write ++ []) = some (d, []) :=
    readValue_write spelled single shallow (by omega) trivial
  rw [List.append_nil] at hread
  have hskip := (starts_of_readValue hread).1
  simp only [ofText?, String.toList_ofList, hskip, hread]
  rfl

theorem ofPayload?_toUTF8 (s : String) : ofPayload? s.toUTF8 = ofText? s := by
  have hvalid : s.toUTF8.IsValidUTF8 := s.isValidUTF8
  have hback : String.fromUTF8? s.toUTF8 = some s := by
    rw [String.fromUTF8?, dif_pos hvalid]
    rfl
  rw [ofPayload?, hback, Option.bind_some]

end DeviceLink.Document
