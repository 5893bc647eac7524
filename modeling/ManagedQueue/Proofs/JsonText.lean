import ManagedQueue.Json.Reader
import ManagedQueue.Json.Writer
import Mathlib.Data.List.TakeWhile

namespace ManagedQueue

namespace Text

theorem hexDigit?_digitChar {n : Nat} (h : n < 16) : hexDigit? (Nat.digitChar n) = some n := by
  have hall : ∀ n < 16, hexDigit? (Nat.digitChar n) = some n := by decide
  exact hall n h

theorem isDigit_of_mem_natChars {n : Nat} {c : Char} (h : c ∈ natChars n) : c.isDigit :=
  Nat.isDigit_of_mem_toDigits (by decide) (by decide) h

theorem natChars_ne_nil (n : Nat) : natChars n ≠ [] := Nat.toDigits_ne_nil

theorem eq_zero_of_head_natChars {n : Nat} (h : (natChars n).head? = some '0') : n = 0 := by
  induction n using Nat.strongRecOn with
  | _ n ih =>
    rw [natChars, Nat.toDigits_eq_if (by decide)] at h
    split at h
    · next hlt =>
      have hall : ∀ n < 10, Nat.digitChar n = '0' → n = 0 := by decide
      exact hall n hlt (Option.some.inj h)
    · next hge =>
      have hhead : (natChars (n / 10)).head? = some '0' := by
        change (natChars (n / 10) ++ _).head? = _ at h
        cases hcs : natChars (n / 10) with
        | nil => exact absurd hcs (natChars_ne_nil _)
        | cons => rwa [hcs] at h
      have hzero := ih (n / 10) (by omega) hhead
      omega

end Text

namespace Json

open Text (natChars intChars)

theorem isWordChar_of_isDigit {c : Char} (h : c.isDigit) : isWordChar c := by
  simp [isWordChar, Char.isAlphanum, h]

theorem wholePart?_natChars (n : Nat) : wholePart? (natChars n) = some n := by
  unfold wholePart?
  rw [if_neg, Text.natOf?_natChars]
  intro h
  simp only [Bool.and_eq_true, beq_iff_eq, bne_iff_ne, ne_eq] at h
  obtain ⟨hhead, hlength⟩ := h
  obtain rfl := Text.eq_zero_of_head_natChars hhead
  exact hlength rfl

theorem takeWhile_natChars (n : Nat) : (natChars n).takeWhile Char.isDigit = natChars n :=
  List.takeWhile_eq_self_iff.mpr fun _ hc => Text.isDigit_of_mem_natChars hc

theorem dropWhile_natChars (n : Nat) : (natChars n).dropWhile Char.isDigit = [] :=
  List.dropWhile_eq_nil_iff.mpr fun _ hc => Text.isDigit_of_mem_natChars hc

theorem number?_natChars (n : Nat) : number? (natChars n) = some (.int n) := by
  have hsign : ((natChars n).head? == some '-') = false := by
    rw [beq_eq_false_iff_ne]
    intro h
    exact absurd (Text.isDigit_of_mem_natChars (List.mem_of_mem_head? h)) (by decide)
  simp [number?, hsign, takeWhile_natChars, dropWhile_natChars, wholePart?_natChars]

theorem number?_neg {n : Nat} (hn : n ≠ 0) : number? ('-' :: natChars n) = some (.int (-n)) := by
  simp [number?, takeWhile_natChars, dropWhile_natChars, wholePart?_natChars, hn]

theorem word?_of_number {cs : List Char} (h : ∀ c ∈ cs.head?, c.isDigit ∨ c = '-') :
    word? cs = number? cs := by
  have hne (c : Char) (rest : List Char) (hc : ¬ (c.isDigit ∨ c = '-')) : cs ≠ c :: rest := by
    rintro rfl
    exact hc (h c rfl)
  have hnull : cs ≠ "null".toList := hne 'n' _ (by decide)
  have htrue : cs ≠ "true".toList := hne 't' _ (by decide)
  have hfalse : cs ≠ "false".toList := hne 'f' _ (by decide)
  rw [word?, if_neg hnull, if_neg htrue, if_neg hfalse]

theorem word?_intChars (n : Int) : word? (intChars n) = some (.int n) := by
  cases n with
  | ofNat n =>
      rw [intChars, word?_of_number, number?_natChars]
      · rfl
      · exact fun c hc => .inl (Text.isDigit_of_mem_natChars (List.mem_of_mem_head? hc))
  | negSucc n =>
      rw [intChars, word?_of_number, number?_neg n.succ_ne_zero]
      · rfl
      · rintro c ⟨⟩
        exact .inr rfl

theorem isWordChar_of_mem_intChars {n : Int} {c : Char} (h : c ∈ intChars n) : isWordChar c := by
  cases n with
  | ofNat n => exact isWordChar_of_isDigit (Text.isDigit_of_mem_natChars h)
  | negSucc n =>
      rcases List.mem_cons.mp h with rfl | h
      · decide
      · exact isWordChar_of_isDigit (Text.isDigit_of_mem_natChars h)

theorem intChars_ne_nil (n : Int) : intChars n ≠ [] := by
  cases n with
  | ofNat n => exact Text.natChars_ne_nil n
  | negSucc n => exact List.cons_ne_nil _ _

def Delimited (cs : List Char) : Prop := ∀ c ∈ cs.head?, isWordChar c = false

theorem Delimited.append {cs ds : List Char} (hc : Delimited cs) (hd : Delimited ds) :
    Delimited (cs ++ ds) := by
  cases cs with
  | nil => exact hd
  | cons c cs => exact hc

theorem delimited_lineBreak (depth : Nat) (cs : List Char) : Delimited (lineBreak depth ++ cs) := by
  rintro c ⟨⟩
  decide

namespace Scan

def rest? (s : Scan) (cs : List Char) : Option (List Token) := (cs.foldlM step s).bind finish

theorem rest?_cons (s : Scan) (c : Char) (cs : List Char) :
    s.rest? (c :: cs) = (s.step c).bind fun s => s.rest? cs := by
  unfold rest?
  rw [List.foldlM_cons]
  cases s.step c <;> rfl

variable {ts : List Token} {cs rest : List Char}

theorem rest?_space {c : Char} (hc : isSpace c) :
    rest? ⟨.between, ts⟩ (c :: rest) = rest? ⟨.between, ts⟩ rest := by
  rw [rest?_cons]
  simp [step, between, hc]

theorem rest?_lineBreak (depth : Nat) :
    rest? ⟨.between, ts⟩ (lineBreak depth ++ rest) = rest? ⟨.between, ts⟩ rest := by
  have hblanks (n : Nat) :
      rest? ⟨.between, ts⟩ (List.replicate n ' ' ++ rest) = rest? ⟨.between, ts⟩ rest := by
    induction n with
    | zero => rfl
    | succ n ih => exact (rest?_space rfl).trans ih
  exact (rest?_space rfl).trans (hblanks _)

theorem rest?_word_over {seen : List Char} {v : Json} (hv : word? seen.reverse = some v)
    (hrest : Delimited rest) :
    rest? ⟨.word seen, ts⟩ rest = rest? ⟨.between, .atom v :: ts⟩ rest := by
  cases rest with
  | nil => simp [rest?, finish, endWord, emit, hv]
  | cons c cs =>
      have hc : isWordChar c = false := hrest c rfl
      rw [rest?_cons, rest?_cons]
      simp [step, hc, endWord, emit, hv]

theorem rest?_word_on {seen : List Char} (hcs : ∀ c ∈ cs, isWordChar c) :
    rest? ⟨.word seen, ts⟩ (cs ++ rest) = rest? ⟨.word (cs.reverse ++ seen), ts⟩ rest := by
  induction cs generalizing seen with
  | nil => rfl
  | cons c cs ih =>
      have hc : isWordChar c := hcs c (.head _)
      rw [List.cons_append, rest?_cons]
      simp only [step, hc, if_true, Option.bind_some]
      rw [ih fun d hd => hcs d (.tail _ hd), List.reverse_cons, List.append_assoc]
      rfl

theorem between_of_isWordChar {c : Char} (hc : isWordChar c) :
    between ⟨.between, ts⟩ c = some ⟨.word [c], ts⟩ := by
  have hne (d : Char) (hd : isWordChar d = false) : c ≠ d := by
    rintro rfl
    rw [hc] at hd
    cases hd
  have hspace : isSpace c = false := by
    simp [isSpace, hne ' ' rfl, hne '\n' rfl, hne '\t' rfl, hne '\r' rfl]
  simp [between, hspace, hc, hne '[' rfl, hne ']' rfl, hne '{' rfl, hne '}' rfl, hne ',' rfl, hne ':' rfl,
    hne '"' rfl]

theorem rest?_word {v : Json} (hv : word? cs = some v) (hne : cs ≠ []) (hcs : ∀ c ∈ cs, isWordChar c)
    (hrest : Delimited rest) :
    rest? ⟨.between, ts⟩ (cs ++ rest) = rest? ⟨.between, .atom v :: ts⟩ rest := by
  cases cs with
  | nil => exact absurd rfl hne
  | cons c cs =>
      rw [List.cons_append, rest?_cons, step, between_of_isWordChar (hcs c (.head _)), Option.bind_some,
        rest?_word_on fun d hd => hcs d (.tail _ hd), rest?_word_over _ hrest]
      rw [List.reverse_append, List.reverse_reverse]
      exact hv

theorem rest?_push {t : Begun} {c : Char} (hc : ¬ c.toNat < 0x20) (hq : c ≠ '"') (hb : c ≠ '\\') :
    rest? ⟨.string t, ts⟩ (c :: rest) = rest? ⟨.string (t.push c), ts⟩ rest := by
  rw [rest?_cons]
  simp [step, hc, hq, hb]

theorem rest?_escape {t : Begun} {c d : Char} (hd : escaped? d = some c) (hu : d ≠ 'u') :
    rest? ⟨.string t, ts⟩ ('\\' :: d :: rest) = rest? ⟨.string (t.push c), ts⟩ rest := by
  simp [rest?_cons, step, hd, hu]

theorem rest?_unit {t : Begun} {n : Nat} (hn : n < 0x20) :
    rest? ⟨.string t, ts⟩ ('\\' :: 'u' :: hexUnit n ++ rest) =
      rest? ⟨.string (t.push (Char.ofNat n)), ts⟩ rest := by
  have hdigit (m : Nat) : Text.hexDigit? (Nat.digitChar (m % 16)) = some (m % 16) :=
    Text.hexDigit?_digitChar (Nat.mod_lt m (by decide))
  have hvalue : (n / 0x1000 % 16 * 16 + n / 0x100 % 16) * 16 + n / 16 % 16 = n / 16 := by omega
  have hpush : t.pushUnit n = t.push (Char.ofNat n) := by
    have hlow : (decide (0xDC00 ≤ n) && decide (n ≤ 0xDFFF)) = false := by simp; omega
    have hhigh : (decide (0xD800 ≤ n) && decide (n ≤ 0xDBFF)) = false := by simp; omega
    simp [Begun.pushUnit, hlow, hhigh]
  simp only [hexUnit, List.cons_append, List.nil_append, rest?_cons]
  simp only [step, hdigit, Option.map_some, Option.bind_some, reduceIte, Char.reduceEq, Nat.reduceEqDiff,
    Nat.zero_mul, Nat.zero_add, hvalue, Nat.reduceAdd]
  rw [show n / 16 * 16 + n % 16 = n by omega, hpush]

theorem rest?_escapedChar (t : Begun) (c : Char) :
    rest? ⟨.string t, ts⟩ (escapedChar c ++ rest) = rest? ⟨.string (t.push c), ts⟩ rest := by
  unfold escapedChar
  split
  · next h =>
    subst h
    exact rest?_escape rfl (by decide)
  split
  · next h =>
    subst h
    exact rest?_escape rfl (by decide)
  split
  · next h =>
    subst h
    exact rest?_escape rfl (by decide)
  split
  · next h =>
    subst h
    exact rest?_escape rfl (by decide)
  split
  · next h =>
    subst h
    exact rest?_escape rfl (by decide)
  split
  · next h =>
    subst h
    exact rest?_escape rfl (by decide)
  split
  · next h =>
    subst h
    exact rest?_escape rfl (by decide)
  split
  · next h =>
    rw [rest?_unit h, Char.ofNat_toNat]
  · next hq hb _ _ _ _ _ h => exact rest?_push h hq hb

theorem rest?_chars (s : List Char) {t : Begun} (hhigh : t.high = none) :
    rest? ⟨.string t, ts⟩ (s.flatMap escapedChar ++ rest) =
      rest? ⟨.string { t with chars := s.reverse ++ t.chars }, ts⟩ rest := by
  induction s generalizing t with
  | nil => rfl
  | cons c s ih =>
      have hpush : t.push c = { t with chars := c :: t.chars } := by
        simp [Begun.push, Begun.settled, hhigh]
      have hrest := ih (t := { t with chars := c :: t.chars }) hhigh
      rw [List.flatMap_cons, List.append_assoc, rest?_escapedChar, hpush, hrest, List.reverse_cons,
        List.append_assoc]
      rfl

theorem rest?_string (s : String) :
    rest? ⟨.between, ts⟩ (stringChars (some s) ++ rest) = rest? ⟨.between, .str (some s) :: ts⟩ rest := by
  have hopen : step ⟨.between, ts⟩ '"' = some ⟨.string {}, ts⟩ := rfl
  have hclose (t : Begun) : step ⟨.string t, ts⟩ '"' = some ⟨.between, .str t.finish :: ts⟩ := by
    simp [step, emit]
  have hchars : stringChars (some s) ++ rest = '"' :: (s.toList.flatMap escapedChar ++ '"' :: rest) :=
    List.append_assoc ('"' :: s.toList.flatMap escapedChar) ['"'] rest
  rw [hchars, rest?_cons, hopen, Option.bind_some, rest?_chars s.toList rfl, rest?_cons, hclose,
    Option.bind_some]
  simp [Begun.finish, Begun.settled]

end Scan

/-- Values with a text of their own: their strings are texts, and their numbers are integers. -/
inductive Plain : Json → Prop
  | null : Plain .null
  | bool (b) : Plain (.bool b)
  | int (n) : Plain (.int n)
  | text (s) : Plain (text s)
  | arr (items) (h : ∀ v ∈ items, Plain v) : Plain (.arr items)
  | record (fields : List (String × Json)) (h : ∀ f ∈ fields, Plain f.2) : Plain (record fields)

mutual

/-- The tokens that a value consists of. -/
def tokens : Json → List Token
  | .str s => [.str s]
  | .arr [] => [.openArr, .closeArr]
  | .arr (v :: vs) => .openArr :: tokens v ++ itemTokens vs ++ [.closeArr]
  | .obj [] => [.openObj, .closeObj]
  | .obj ((k, v) :: ms) => .openObj :: .str k :: .colon :: tokens v ++ memberTokens ms ++ [.closeObj]
  | v => [.atom v]

def itemTokens : List Json → List Token
  | [] => []
  | v :: vs => .comma :: tokens v ++ itemTokens vs

def memberTokens : List (Option String × Json) → List Token
  | [] => []
  | (k, v) :: ms => .comma :: .str k :: .colon :: tokens v ++ memberTokens ms

end

/-- The characters are read as these tokens, as long as no word goes on after them. -/
def Reads (cs : List Char) (ts : List Token) : Prop :=
  ∀ (seen : List Token) (rest : List Char), Delimited rest →
    Scan.rest? ⟨.between, seen⟩ (cs ++ rest) = Scan.rest? ⟨.between, ts.reverse ++ seen⟩ rest

namespace Reads

variable {cs ds : List Char} {ts us : List Token}

theorem nil : Reads [] [] := fun _ _ _ => rfl

theorem append (hc : Reads cs ts) (hd : Reads ds us) (hdelimited : Delimited ds) :
    Reads (cs ++ ds) (ts ++ us) := by
  intro seen rest hrest
  rw [List.append_assoc, hc _ _ (hdelimited.append hrest), hd _ _ hrest, List.reverse_append,
    List.append_assoc]

theorem lineBreak (depth : Nat) (h : Reads cs ts) : Reads (lineBreak depth ++ cs) ts := by
  intro seen rest hrest
  rw [List.append_assoc, Scan.rest?_lineBreak, h _ _ hrest]

theorem cons {c : Char} {t : Token} (hc : ∀ s : Scan, s.between c = some (s.emit t)) (h : Reads cs ts) :
    Reads (c :: cs) (t :: ts) := by
  intro seen rest hrest
  rw [List.cons_append, Scan.rest?_cons, Scan.step, hc, Option.bind_some, Scan.emit, h _ _ hrest,
    List.reverse_cons, List.append_assoc]
  rfl

theorem string (s : String) (h : Reads cs ts) :
    Reads (stringChars (some s) ++ cs) (.str (some s) :: ts) := by
  intro seen rest hrest
  rw [List.append_assoc, Scan.rest?_string, h _ _ hrest, List.reverse_cons, List.append_assoc]
  rfl

theorem field (k : String) (h : Reads cs ts) :
    Reads (stringChars (some k) ++ ':' :: ' ' :: cs) (.str (some k) :: .colon :: ts) := by
  refine .string k (.cons (c := ':') (fun _ => rfl) fun _ _ hrest => ?_)
  exact (Scan.rest?_space rfl).trans (h _ _ hrest)

theorem word {v : Json} (hv : word? cs = some v) (hne : cs ≠ []) (hcs : ∀ c ∈ cs, isWordChar c) :
    Reads cs [.atom v] := fun _ _ hrest => Scan.rest?_word hv hne hcs hrest

theorem close {c : Char} {t : Token} (hc : ∀ s : Scan, s.between c = some (s.emit t)) (depth : Nat) :
    Reads (Json.lineBreak depth ++ [c]) [t] := (nil.cons hc).lineBreak depth

end Reads

theorem delimited_prettyItems (depth : Nat) (vs : List Json) (cs : List Char) (h : Delimited cs) :
    Delimited (prettyItems depth vs ++ cs) := by
  cases vs with
  | nil => exact h
  | cons v vs =>
      rintro c ⟨⟩
      decide

theorem delimited_prettyMembers (depth : Nat) (ms : List (Option String × Json)) (cs : List Char)
    (h : Delimited cs) : Delimited (prettyMembers depth ms ++ cs) := by
  cases ms with
  | nil => exact h
  | cons m ms =>
      rintro c ⟨⟩
      decide

theorem reads_items {depth : Nat} {vs : List Json} {cs : List Char} {ts : List Token}
    (hvs : ∀ v ∈ vs, Reads (prettyChars depth v) (tokens v)) (h : Reads cs ts) (hcs : Delimited cs) :
    Reads (prettyItems depth vs ++ cs) (itemTokens vs ++ ts) := by
  induction vs with
  | nil => exact h
  | cons v vs ih =>
      have hrest := ih fun w hw => hvs w (.tail _ hw)
      have hv := (hvs v (.head _)).append hrest (delimited_prettyItems depth vs cs hcs)
      simpa [prettyItems, itemTokens] using (hv.lineBreak depth).cons (c := ',') (fun _ => rfl)

theorem reads_members {depth : Nat} {fields : List (String × Json)} {cs : List Char} {ts : List Token}
    (hvs : ∀ f ∈ fields, Reads (prettyChars depth f.2) (tokens f.2)) (h : Reads cs ts)
    (hcs : Delimited cs) :
    Reads (prettyMembers depth (fields.map fun f => (some f.1, f.2)) ++ cs)
      (memberTokens (fields.map fun f => (some f.1, f.2)) ++ ts) := by
  induction fields with
  | nil => exact h
  | cons f fields ih =>
      have hrest := ih fun w hw => hvs w (.tail _ hw)
      have hv := (hvs f (.head _)).append hrest (delimited_prettyMembers depth _ cs hcs)
      simpa [prettyMembers, memberTokens] using
        ((hv.field f.1).lineBreak depth).cons (c := ',') (fun _ => rfl)

theorem Plain.reads {v : Json} (h : Plain v) (depth : Nat) : Reads (prettyChars depth v) (tokens v) := by
  induction h generalizing depth with
  | null =>
      change Reads ['n', 'u', 'l', 'l'] _
      exact .word rfl (by decide) (List.all_eq_true.mp (by decide))
  | bool b =>
      cases b with
      | false =>
          change Reads ['f', 'a', 'l', 's', 'e'] _
          exact .word rfl (by decide) (List.all_eq_true.mp (by decide))
      | true =>
          change Reads ['t', 'r', 'u', 'e'] _
          exact .word rfl (by decide) (List.all_eq_true.mp (by decide))
  | int n => exact .word (word?_intChars n) (intChars_ne_nil n) fun c hc => isWordChar_of_mem_intChars hc
  | text s =>
      have h := Reads.nil.string s
      rwa [List.append_nil] at h
  | arr items h ih =>
      cases items with
      | nil => exact .cons (c := '[') (fun _ => rfl) (.cons (c := ']') (fun _ => rfl) .nil)
      | cons v vs =>
          have hclose : Reads (lineBreak depth ++ [']']) [.closeArr] := .close (fun _ => rfl) depth
          have hend := delimited_lineBreak depth [']']
          have hvs := reads_items (fun w hw => ih w (.tail _ hw) (depth + 1)) hclose hend
          have hv := (ih v (.head _) (depth + 1)).append hvs (delimited_prettyItems _ vs _ hend)
          -- An item is followed by a comma or a line break, neither of which goes on a word.
          simpa [prettyChars, tokens] using (hv.lineBreak (depth + 1)).cons (c := '[') (fun _ => rfl)
  | record fields h ih =>
      cases fields with
      | nil => exact .cons (c := '{') (fun _ => rfl) (.cons (c := '}') (fun _ => rfl) .nil)
      | cons f fields =>
          have hclose : Reads (lineBreak depth ++ ['}']) [.closeObj] := .close (fun _ => rfl) depth
          have hend := delimited_lineBreak depth ['}']
          have hvs := reads_members (fun w hw => ih w (.tail _ hw) (depth + 1)) hclose hend
          have hv := (ih f (.head _) (depth + 1)).append hvs (delimited_prettyMembers _ _ _ hend)
          simpa [prettyChars, tokens, Json.record] using
            ((hv.field f.1).lineBreak (depth + 1)).cons (c := '{') (fun _ => rfl)

namespace Assembly

def run (a : Assembly) (ts : List Token) : Option Assembly := ts.foldlM step a

theorem run_cons (a : Assembly) (t : Token) (ts : List Token) :
    a.run (t :: ts) = (a.step t).bind fun a => a.run ts := by
  unfold run
  rw [List.foldlM_cons]
  cases a.step t <;> rfl

end Assembly

/-- Wherever a value may stand, the tokens come to be this one. -/
def Makes (ts : List Token) (v : Json) : Prop :=
  ∀ (stack : List Frame) (want : Want) (rest : List Token), want = .value ∨ want = .itemOrClose →
    Assembly.run ⟨stack, want⟩ (ts ++ rest) = (Assembly.accept stack v).bind fun a => a.run rest

theorem makes_atom (v : Json) : Makes [.atom v] v := by
  rintro stack want rest (rfl | rfl) <;> exact Assembly.run_cons _ _ _

theorem makes_str (s : Option String) : Makes [.str s] (.str s) := by
  rintro stack want rest (rfl | rfl) <;> exact Assembly.run_cons _ _ _

theorem makes_items {vs : List Json} (hvs : ∀ v ∈ vs, Makes (tokens v) v) (items : List Json)
    (stack : List Frame) (rest : List Token) :
    Assembly.run ⟨.arr items :: stack, .commaOrClose⟩ (itemTokens vs ++ .closeArr :: rest) =
      (Assembly.accept stack (.arr (items.reverse ++ vs))).bind fun a => a.run rest := by
  induction vs generalizing items with
  | nil =>
      rw [List.append_nil]
      exact Assembly.run_cons _ _ _
  | cons v vs ih =>
      have hv := hvs v (.head _) (.arr items :: stack) .value (itemTokens vs ++ .closeArr :: rest) (.inl rfl)
      have hrest := ih (fun w hw => hvs w (.tail _ hw)) (v :: items)
      rw [List.reverse_cons, List.append_assoc] at hrest
      simp only [itemTokens, List.cons_append, List.append_assoc, Assembly.run_cons]
      exact hv.trans hrest

theorem makes_members {fields : List (String × Json)} (hvs : ∀ f ∈ fields, Makes (tokens f.2) f.2)
    (members : List (Option String × Json)) (stack : List Frame) (rest : List Token) :
    Assembly.run ⟨.obj members :: stack, .commaOrClose⟩
        (memberTokens (fields.map fun f => (some f.1, f.2)) ++ .closeObj :: rest) =
      (Assembly.accept stack (.obj (members.reverse ++ fields.map fun f => (some f.1, f.2)))).bind
        fun a => a.run rest := by
  induction fields generalizing members with
  | nil =>
      rw [List.map_nil, List.append_nil]
      exact Assembly.run_cons _ _ _
  | cons f fields ih =>
      have hv := hvs f (.head _) (.field members (some f.1) :: stack) .value
        (memberTokens (fields.map fun f => (some f.1, f.2)) ++ .closeObj :: rest) (.inl rfl)
      have hrest := ih (fun w hw => hvs w (.tail _ hw)) ((some f.1, f.2) :: members)
      rw [List.reverse_cons, List.append_assoc] at hrest
      simp only [List.map_cons, memberTokens, List.cons_append, List.append_assoc, Assembly.run_cons]
      exact hv.trans hrest

theorem Plain.makes {v : Json} (h : Plain v) : Makes (tokens v) v := by
  -- On the value, for every stack that waits for one: its tokens put it there and leave the rest.
  induction h with
  | null => exact makes_atom _
  | bool b => exact makes_atom _
  | int n => exact makes_atom _
  | text s => exact makes_str _
  | arr items h ih =>
      intro stack want rest hwant
      have hopen (ts : List Token) : Assembly.run ⟨stack, want⟩ (.openArr :: ts) =
          Assembly.run ⟨.arr [] :: stack, .itemOrClose⟩ ts := by
        rcases hwant with rfl | rfl <;> exact Assembly.run_cons _ _ _
      cases items with
      | nil =>
          rw [tokens, List.cons_append, hopen]
          exact Assembly.run_cons _ _ _
      | cons v vs =>
          have hv := ih v (.head _) (.arr [] :: stack) .itemOrClose (itemTokens vs ++ .closeArr :: rest)
            (.inr rfl)
          have hvs := makes_items (fun w hw => ih w (.tail _ hw)) [v] stack rest
          simp only [tokens, List.cons_append, List.append_assoc, hopen]
          exact hv.trans hvs
  | record fields h ih =>
      intro stack want rest hwant
      have hopen (ts : List Token) : Assembly.run ⟨stack, want⟩ (.openObj :: ts) =
          Assembly.run ⟨.obj [] :: stack, .keyOrClose⟩ ts := by
        rcases hwant with rfl | rfl <;> exact Assembly.run_cons _ _ _
      cases fields with
      | nil =>
          rw [Json.record, List.map_nil, tokens, List.cons_append, hopen]
          exact Assembly.run_cons _ _ _
      | cons f fields =>
          have hv := ih f (.head _) (.field [] (some f.1) :: stack) .value
            (memberTokens (fields.map fun f => (some f.1, f.2)) ++ .closeObj :: rest) (.inl rfl)
          have hvs := makes_members (fun w hw => ih w (.tail _ hw)) [(some f.1, f.2)] stack rest
          simp only [Json.record, List.map_cons, tokens, List.cons_append, List.append_assoc, hopen,
            Assembly.run_cons]
          exact hv.trans hvs

theorem Plain.parse?_pretty {v : Json} (h : Plain v) : parse? (pretty v) = some v := by
  have htokens : tokens? (prettyChars 0 v) = some (tokens v) := by
    have hreads := h.reads 0 [] [] (by rintro c ⟨⟩)
    rw [List.append_nil, List.append_nil] at hreads
    refine hreads.trans ?_
    simp [Scan.rest?, Scan.finish]
  have hmakes := h.makes [] .value [] (.inl rfl)
  rw [List.append_nil] at hmakes
  rw [parse?, pretty, String.toList_ofList, htokens, Option.bind_some, ofTokens?]
  exact congrArg (Option.bind · Assembly.finish) hmakes

end Json

end ManagedQueue
