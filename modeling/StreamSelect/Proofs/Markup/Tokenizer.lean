import Mathlib.Data.List.Basic
import Mathlib.Data.List.TakeWhile
import StreamSelect.Markup.Tokenizer
import StreamSelect.Proofs.Markup.Spelling

/-! What the results on texts need of the tokenizer. Tokens lie one behind the other in the text, each
a run of text or between brackets; a tag that is read to its end has one list of attributes; and what
is written of a tree is read as it was meant. The results use these laws alone. -/
namespace StreamSelect.Markup

/-! ### Runs of text, and what stands between brackets -/

/-- A token between brackets. -/
structure Lexeme.IsMarkup (l : Lexeme) : Prop where
  opening : l.source.head? = some '<'
  closing : l.source.getLast? = some '>'
  token : ∀ raw, l.token ≠ .characters raw

theorem isMarkup_lexeme {token : Token} {opening inside closing rest : List Char}
    (hopening : opening.head? = some '<') (hclosing : closing.getLast? = some '>')
    (htoken : ∀ raw, token ≠ .characters raw) :
    (Token.lexeme token opening inside closing rest).IsMarkup := by
  refine ⟨?_, ?_, htoken⟩
  · simp [Token.lexeme, hopening]
  · simp [Token.lexeme, hclosing]

theorem isMarkup_readDeclared {text : List Char} {l : Lexeme} (h : Token.readDeclared text = .ok l) :
    l.IsMarkup := by
  unfold Token.readDeclared at h
  split at h
  · split at h
    · cases h
      exact isMarkup_lexeme rfl rfl nofun
    · cases h
  · split at h
    · cases h
      exact isMarkup_lexeme rfl rfl nofun
    · cases h
  · split at h
    · split at h
      · cases h
      · split at h
        · cases h
        · dsimp only at h
          split at h
          · cases h
          · cases h
            exact isMarkup_lexeme rfl rfl nofun
    · cases h
  · cases h

theorem isMarkup_readMarkup {text : List Char} {l : Lexeme} (h : Token.readMarkup text = .ok l) :
    l.IsMarkup := by
  unfold Token.readMarkup at h
  split at h
  · exact isMarkup_readDeclared h
  · unfold Token.readInstruction at h
    split at h
    · cases h
    · split at h
      · cases h
        exact isMarkup_lexeme rfl rfl nofun
      · cases h
  · unfold Token.readTag at h
    split at h
    · cases h
      refine isMarkup_lexeme rfl rfl fun raw => ?_
      unfold Token.ofTagInside
      split
      · exact nofun
      · split <;> exact nofun
    · cases h

/-- A token is a run of text up to the next opening bracket, or it stands between brackets. -/
theorem read_cases {first : Char} {text : List Char} {l : Lexeme}
    (h : Token.read first text = .ok l) :
    (l.token = .characters l.source ∧ l.source.head? = some first ∧ '<' ∉ l.source ∧
      ∀ c ∈ l.rest.head?, c = '<') ∨ l.IsMarkup := by
  unfold Token.read at h
  split at h
  · exact .inr (isMarkup_readMarkup h)
  · rename_i hfirst
    cases h
    refine .inl ⟨rfl, rfl, ?_, ?_⟩
    · intro hmem
      rcases List.mem_cons.1 hmem with heq | hrest
      · exact hfirst heq.symm
      · exact absurd (List.mem_takeWhile_imp hrest) (by decide)
    · intro c hc
      have hstop := List.head?_dropWhile_not (· != '<') text
      rw [Option.mem_def] at hc
      simp only [hc] at hstop
      simpa using hstop

/-! ### The attributes of a tag -/

/-- An attribute that can be read, in front of others. -/
theorem attributesFrom_of_value {seen : Option (List (List Char × Nat))} {r afterEquals rest : TagRest}
    {value : List Char} (hsome : r.skipBlanks.text.isEmpty = false)
    (hequals : r.skipBlanks.key.2.equals = .ok afterEquals)
    (hseen : (seen.getD []).find? (·.1 = r.skipBlanks.key.1) = none)
    (hvalue : afterEquals.value = .ok (value, rest)) :
    attributesFrom seen r =
      (⟨r.skipBlanks.key.1, value⟩ ::
          (attributesFrom (seen.map ((r.skipBlanks.key.1, r.skipBlanks.position) :: ·)) rest).1,
        (attributesFrom (seen.map ((r.skipBlanks.key.1, r.skipBlanks.position) :: ·)) rest).2) := by
  rw [attributesFrom]
  simp only [hsome, Bool.false_eq_true, if_false]
  split
  · simp_all
  · rename_i found hfound
    rw [hequals, Except.ok.injEq] at hfound
    subst hfound
    rw [hseen]
    dsimp only
    split
    · simp_all
    · rename_i value' rest' hvalue'
      rw [hvalue, Except.ok.injEq, Prod.mk.injEq] at hvalue'
      obtain ⟨rfl, rfl⟩ := hvalue'
      rfl

theorem attributesFrom_of_blank {seen : Option (List (List Char × Nat))} {r : TagRest}
    (h : r.skipBlanks.text.isEmpty = true) : attributesFrom seen r = ([], none) := by
  rw [attributesFrom, if_pos h]

/-- Where no key comes again, it makes no difference to look for one. -/
theorem attributesFrom_none {seen : Option (List (List Char × Nat))} {r : TagRest}
    (h : (attributesFrom seen r).2 = none) : attributesFrom none r = attributesFrom seen r := by
  fun_induction attributesFrom seen r with
  | case1 seen r start hempty => rw [attributesFrom_of_blank hempty]
  | case2 => cases h
  | case3 => cases h
  | case4 => cases h
  | case5 seen r start hsome key afterEquals hequals hseen value rest hvalue others ih =>
    have hblank : start.text.isEmpty = false := by simpa using hsome
    have hrest := ih h
    rw [@attributesFrom_of_value none _ _ _ _ hblank hequals rfl hvalue]
    show (⟨key, value⟩ :: (attributesFrom none rest).1, (attributesFrom none rest).2) = _
    rw [hrest]

/-- A tag that is read to its end has the attributes that can be read of it. -/
theorem TagContent.readableAttributes_eq {t : TagContent} (h : t.attributes.2 = none) :
    t.readableAttributes = t.attributes.1 :=
  congrArg Prod.fst (attributesFrom_none h)

/-! ### Escaped text -/

/-- What an escaped character is: itself, or a reference to it. -/
theorem escapeChar_cases (c : Char) :
    (escapeChar c = [c] ∧ c ≠ '<' ∧ c ≠ '>' ∧ c ≠ '&' ∧ c ≠ '\'' ∧ c ≠ '"') ∨
      ∃ name, escapeChar c = '&' :: (name ++ [';']) ∧ (∀ d ∈ name, d.isAlpha = true) ∧
        ∀ first, Reference.character first name = .ok c := by
  unfold escapeChar
  split
  · exact .inr ⟨['l', 't'], rfl, by simp, fun _ => by cbv⟩
  · exact .inr ⟨['g', 't'], rfl, by simp, fun _ => by cbv⟩
  · exact .inr ⟨['a', 'm', 'p'], rfl, by simp, fun _ => by cbv⟩
  · exact .inr ⟨['a', 'p', 'o', 's'], rfl, by simp, fun _ => by cbv⟩
  · exact .inr ⟨['q', 'u', 'o', 't'], rfl, by simp, fun _ => by cbv⟩
  · simp_all

theorem not_mem_escape {text : List Char} {d : Char}
    (h : d = '<' ∨ d = '>' ∨ d = '\'' ∨ d = '"') : d ∉ escape text := by
  intro hmem
  obtain ⟨c, -, hc⟩ := List.mem_flatMap.1 hmem
  have hletter : d.isAlpha = false ∧ d ≠ '&' ∧ d ≠ ';' := by
    rcases h with rfl | rfl | rfl | rfl <;> decide
  rcases escapeChar_cases c with ⟨hself, hne⟩ | ⟨name, hname, hletters, -⟩
  · rw [hself, List.mem_singleton] at hc
    subst hc
    rcases h with rfl | rfl | rfl | rfl <;> simp at hne
  · rw [hname, List.mem_cons, List.mem_append, List.mem_singleton] at hc
    rcases hc with hc | hc | hc
    · exact hletter.2.1 hc
    · rw [hletters d hc] at hletter
      cases hletter.1
    · exact hletter.2.2 hc

theorem escape_ne_nil {text : List Char} (h : text ≠ []) : escape text ≠ [] := by
  obtain ⟨c, rest, rfl⟩ := List.exists_cons_of_ne_nil h
  rw [escape, List.flatMap_cons]
  rcases escapeChar_cases c with ⟨hself, -⟩ | ⟨name, hname, -, -⟩
  · simp [hself]
  · simp [hname]

namespace Reference

theorem expandFrom_cons {length position : Nat} {c : Char} {rest others : List Char} (h : c ≠ '&')
    (hrest : expandFrom length (position + c.utf8Size) rest = .ok others) :
    expandFrom length position (c :: rest) = .ok (c :: others) := by
  rw [expandFrom, if_neg h, hrest]
  rfl

/-- A reference is replaced by its character. -/
theorem expandFrom_reference {length position : Nat} {name more others : List Char} {c : Char}
    (hname : ∀ d ∈ name, isDelimiter d = false) (hc : character (position + 1) name = .ok c)
    (hmore : expandFrom length (position + 1 + Text.byteLength name + 1) more = .ok others) :
    expandFrom length position ('&' :: (name ++ ';' :: more)) = .ok (c :: others) := by
  have htake : (name ++ ';' :: more).takeWhile (!isDelimiter ·) = name := by
    rw [List.takeWhile_append_of_pos (by simpa using hname), List.takeWhile_cons_of_neg (by decide),
      List.append_nil]
  have hdrop : (name ++ ';' :: more).dropWhile (!isDelimiter ·) = ';' :: more := by
    rw [List.dropWhile_append_of_pos (by simpa using hname), List.dropWhile_cons_of_neg (by decide)]
  rw [expandFrom, if_pos rfl]
  dsimp only
  rw [htake]
  split
  · rename_i found hfound
    rw [hdrop, List.cons.injEq] at hfound
    rw [hc, ← hfound.2, hmore]
    rfl
  · rename_i hnone
    exact absurd hdrop (hnone more)

theorem isDelimiter_of_isAlpha {c : Char} (h : c.isAlpha = true) : isDelimiter c = false := by
  have hand := ne_of_isAlpha h (d := '&') (by decide)
  have hsemicolon := ne_of_isAlpha h (d := ';') (by decide)
  simp [isDelimiter, hand, hsemicolon]

theorem expandFrom_escape (length position : Nat) (text : List Char) :
    expandFrom length position (escape text) = .ok text := by
  induction text generalizing position with
  | nil => rw [escape, List.flatMap_nil, expandFrom]
  | cons c text ih =>
    rw [escape, List.flatMap_cons]
    rcases escapeChar_cases c with ⟨hself, -, -, hand, -⟩ | ⟨name, hname, hletters, hc⟩
    · rw [hself]
      exact expandFrom_cons hand (ih _)
    · rw [hname, List.cons_append, List.append_assoc, List.singleton_append]
      exact expandFrom_reference (fun d hd => isDelimiter_of_isAlpha (hletters d hd)) (hc _) (ih _)

/-- Escaping is undone. -/
theorem expand_escape (text : List Char) : expand (escape text) = .ok text :=
  expandFrom_escape _ _ text

end Reference

/-! ### The inside of a tag that is written -/

theorem isBlank_of_isAlpha {c : Char} (h : c.isAlpha = true) : isBlank c = false := by
  have hspace := ne_of_isAlpha h (d := ' ') (by decide)
  have htab := ne_of_isAlpha h (d := '\t') (by decide)
  have hfeed := ne_of_isAlpha h (d := '\n') (by decide)
  have hreturn := ne_of_isAlpha h (d := '\r') (by decide)
  simp [isBlank, hspace, htab, hfeed, hreturn]

/-- Text inside a tag that leaves the search for its end outside quotes. -/
def Balanced (inside : List Char) : Prop :=
  ∀ text found rest, Token.tagInside? none text = some (found, rest) →
    Token.tagInside? none (inside ++ text) = some (inside ++ found, rest)

theorem Balanced.append {a b : List Char} (ha : Balanced a) (hb : Balanced b) : Balanced (a ++ b) := by
  intro text found rest h
  rw [List.append_assoc, List.append_assoc]
  exact ha _ _ _ (hb _ _ _ h)

theorem balanced_nil : Balanced [] := fun _ _ _ h => h

theorem balanced_singleton {c : Char} (h : c ≠ '>' ∧ c ≠ '\'' ∧ c ≠ '"') : Balanced [c] := by
  intro text found rest htext
  simp [Token.tagInside?, Token.withFirst, h, htext]

theorem balanced_of_isAlpha {text : List Char} (h : ∀ c ∈ text, c.isAlpha = true) :
    Balanced text := by
  induction text with
  | nil => exact balanced_nil
  | cons c text ih =>
    obtain ⟨hc, hrest⟩ := List.forall_mem_cons.1 h
    have hplain : c ≠ '>' ∧ c ≠ '\'' ∧ c ≠ '"' :=
      ⟨ne_of_isAlpha hc (by decide), ne_of_isAlpha hc (by decide), ne_of_isAlpha hc (by decide)⟩
    exact (balanced_singleton hplain).append (ih hrest)

/-- Between quotes of one kind everything else is passed over. -/
theorem tagInside?_quoted {quote : Char} {value text found rest : List Char} (hvalue : quote ∉ value)
    (h : Token.tagInside? none text = some (found, rest)) :
    Token.tagInside? (some quote) (value ++ quote :: text) =
      some (value ++ quote :: found, rest) := by
  induction value with
  | nil => simp [Token.tagInside?, Token.withFirst, h]
  | cons c value ih =>
    simp only [List.mem_cons, not_or] at hvalue
    rw [List.cons_append, Token.tagInside?, if_neg (Ne.symm hvalue.1), ih hvalue.2]
    rfl

theorem balanced_quoted {quote : Char} {value : List Char} (hquote : quote = '"' ∨ quote = '\'')
    (hvalue : quote ∉ value) : Balanced (quote :: (value ++ [quote])) := by
  intro text found rest h
  have hends : quote ≠ '>' := by rcases hquote with rfl | rfl <;> decide
  have hopens : (quote = '"' || quote = '\'') = true := by simpa using hquote
  rw [List.cons_append, List.append_assoc, List.singleton_append, Token.tagInside?, if_neg hends,
    if_pos hopens, tagInside?_quoted hvalue h]
  simp [Token.withFirst]

theorem not_mem_escape_of_quote {quote : Char} (h : quote = '"' ∨ quote = '\'') (text : List Char) :
    quote ∉ escape text := by
  apply not_mem_escape
  rcases h with rfl | rfl <;> simp

theorem SpellsAttributes.balanced {attributes : List (String × String)} {written : List Char}
    (h : SpellsAttributes attributes written) (hnames : ∀ a ∈ attributes, Node.IsName a.1) :
    Balanced written := by
  induction h with
  | nil => exact balanced_nil
  | @cons name value attributes written quote hquote hrest ih =>
    obtain ⟨hname, hothers⟩ := List.forall_mem_cons.1 hnames
    have hblank : Balanced [' '] := balanced_singleton (by decide)
    have hequals : Balanced ['='] := balanced_singleton (by decide)
    have hvalue := balanced_quoted hquote (not_mem_escape_of_quote hquote value.toList)
    have hall := hblank.append ((balanced_of_isAlpha hname.letters).append
      (hequals.append (hvalue.append (ih hothers))))
    simpa using hall

/-- A name in front of blanks, or of nothing. -/
theorem name_of_spells {name : String} {attributes : List (String × String)} {written : List Char}
    (hname : Node.IsName name) (h : SpellsAttributes attributes written) :
    (TagContent.mk (name.toList ++ written)).name = name.toList ∧
      (TagContent.mk (name.toList ++ written)).rest = ⟨Text.byteLength name.toList, written⟩ := by
  have hletters : ∀ c ∈ name.toList, (!isBlank c) = true := by
    intro c hc
    simp [isBlank_of_isAlpha (hname.letters c hc)]
  have htake : (name.toList ++ written).takeWhile (!isBlank ·) = name.toList := by
    rw [List.takeWhile_append_of_pos hletters]
    cases h with
    | nil => simp
    | cons => rw [List.takeWhile_cons_of_neg (by decide), List.append_nil]
  have hdrop : (name.toList ++ written).dropWhile (!isBlank ·) = written := by
    rw [List.dropWhile_append_of_pos hletters]
    cases h with
    | nil => rfl
    | cons => rw [List.dropWhile_cons_of_neg (by decide)]
  have hfound : (TagContent.mk (name.toList ++ written)).name = name.toList := htake
  refine ⟨hfound, ?_⟩
  rw [TagContent.rest, hfound, hdrop]

/-- An attribute as it is written between quotes. -/
def written (a : String × String) : RawAttribute := ⟨a.1.toList, escape a.2.toList⟩

theorem skipBlanks_of_cons {position : Nat} {c : Char} {text : List Char} (h : isBlank c = false) :
    TagRest.skipBlanks ⟨position, c :: text⟩ = ⟨position, c :: text⟩ := by
  simp [TagRest.skipBlanks, h]

theorem key_of_isName {position : Nat} {name : String} {text : List Char} (h : Node.IsName name) :
    TagRest.key ⟨position, name.toList ++ '=' :: text⟩ =
      (name.toList, ⟨position + Text.byteLength name.toList, '=' :: text⟩) := by
  obtain ⟨c, letters, hletters⟩ := List.exists_cons_of_ne_nil h.nonempty
  have hall : ∀ d ∈ letters, (!TagRest.endsKey d) = true := by
    intro d hd
    have hd : d.isAlpha = true := h.letters d (by simp [hletters, hd])
    have hequals := ne_of_isAlpha hd (d := '=') (by decide)
    simp [TagRest.endsKey, hequals, isBlank_of_isAlpha hd]
  have htake : (letters ++ '=' :: text).takeWhile (!TagRest.endsKey ·) = letters := by
    rw [List.takeWhile_append_of_pos hall, List.takeWhile_cons_of_neg (by decide), List.append_nil]
  have hdrop : (letters ++ '=' :: text).dropWhile (!TagRest.endsKey ·) = '=' :: text := by
    rw [List.dropWhile_append_of_pos hall, List.dropWhile_cons_of_neg (by decide)]
  simp [TagRest.key, hletters, htake, hdrop]

theorem equals_of_cons (position : Nat) (text : List Char) :
    TagRest.equals ⟨position, '=' :: text⟩ = .ok ⟨position + 1, text⟩ := by
  simp only [TagRest.equals, skipBlanks_of_cons (show isBlank '=' = false by decide)]

theorem value_of_quoted {position : Nat} {quote : Char} {value text : List Char}
    (hquote : quote = '"' ∨ quote = '\'') (hvalue : quote ∉ value) :
    TagRest.value ⟨position, quote :: (value ++ quote :: text)⟩ =
      .ok (value, ⟨position + 1 + Text.byteLength value + 1, text⟩) := by
  have hblank : isBlank quote = false := by rcases hquote with rfl | rfl <;> decide
  have hopens : (quote = '"' || quote = '\'') = true := by simpa using hquote
  have hall : ∀ c ∈ value, (c != quote) = true := by
    intro c hc
    simp only [bne_iff_ne]
    rintro rfl
    exact hvalue hc
  have htake : (value ++ quote :: text).takeWhile (· != quote) = value := by
    rw [List.takeWhile_append_of_pos hall, List.takeWhile_cons_of_neg (by simp), List.append_nil]
  have hdrop : (value ++ quote :: text).dropWhile (· != quote) = quote :: text := by
    rw [List.dropWhile_append_of_pos hall, List.dropWhile_cons_of_neg (by simp)]
  simp only [TagRest.value, skipBlanks_of_cons hblank, if_pos hopens, htake, hdrop]

/-- The attributes of a tag are read back as they were written. -/
theorem attributesFrom_of_spells {attributes : List (String × String)} {text : List Char}
    {position : Nat} {keys : List (List Char × Nat)} (h : SpellsAttributes attributes text)
    (hnames : ∀ a ∈ attributes, Node.IsName a.1) (hdifferent : (attributes.map Prod.fst).Nodup)
    (hkeys : ∀ key ∈ keys, ∀ a ∈ attributes, key.1 ≠ a.1.toList) :
    attributesFrom (some keys) ⟨position, text⟩ = (attributes.map written, none) := by
  induction h generalizing position keys with
  | nil =>
    rw [attributesFrom_of_blank rfl]
    rfl
  | @cons name value attributes rest quote hquote hrest ih =>
    obtain ⟨hname, hothers⟩ := List.forall_mem_cons.1 hnames
    rw [List.map_cons, List.nodup_cons] at hdifferent
    obtain ⟨c, letters, hletters⟩ := List.exists_cons_of_ne_nil hname.nonempty
    have hc : isBlank c = false := isBlank_of_isAlpha (hname.letters c (by simp [hletters]))
    have hskip : ∀ more, TagRest.skipBlanks ⟨position, ' ' :: (name.toList ++ more)⟩ =
        ⟨position + 1, name.toList ++ more⟩ := by
      intro more
      simp [TagRest.skipBlanks, hletters, hc, show isBlank ' ' = true by decide]
    have hnew : keys.find? (·.1 = name.toList) = none := by
      rw [List.find?_eq_none]
      intro key hkey
      simpa using hkeys key hkey (name, value) (by simp)
    have hlater : ∀ key ∈ (name.toList, position + 1) :: keys, ∀ a ∈ attributes,
        key.1 ≠ a.1.toList := by
      intro key hkey a ha
      rcases List.mem_cons.1 hkey with rfl | hkey
      · intro hsame
        rw [String.toList_inj] at hsame
        exact hdifferent.1 (List.mem_map.2 ⟨a, ha, hsame.symm⟩)
      · exact hkeys key hkey a (by simp [ha])
    have hstart := hskip ('=' :: quote :: (escape value.toList ++ quote :: rest))
    have hkey := @key_of_isName (position + 1) name
      (quote :: (escape value.toList ++ quote :: rest)) hname
    rw [← hstart] at hkey
    have hread := @attributesFrom_of_value (some keys) _ _ _ _ (by rw [hstart]; simp [hletters])
      (by rw [hkey]; exact equals_of_cons _ _) (by rw [hkey]; exact hnew)
      (value_of_quoted hquote (not_mem_escape_of_quote hquote value.toList))
    rw [hread, hkey, hstart, Option.map_some, ih hothers hdifferent.2 hlater]
    rfl

theorem attributes_of_spells {name : String} {attributes : List (String × String)}
    {text : List Char} (hname : Node.IsName name) (hattributes : Node.AreAttributes attributes)
    (h : SpellsAttributes attributes text) :
    (TagContent.mk (name.toList ++ text)).attributes = (attributes.map written, none) := by
  rw [TagContent.attributes, (name_of_spells hname h).2]
  exact attributesFrom_of_spells h hattributes.names hattributes.different (by simp)

/-! ### Tokens that are written -/

theorem SpellsAttributes.getLast? {attributes : List (String × String)} {text : List Char}
    (h : SpellsAttributes attributes text) :
    text = [] ∨ text.getLast? = some '"' ∨ text.getLast? = some '\'' := by
  induction h with
  | nil => exact .inl rfl
  | @cons name value attributes text quote hquote hrest ih =>
    right
    have hwhole : ' ' :: (name.toList ++ '=' :: quote :: (escape value.toList ++ quote :: text)) =
        (' ' :: (name.toList ++ '=' :: quote :: escape value.toList)) ++ quote :: text := by simp
    rw [hwhole, List.getLast?_append_of_ne_nil _ (List.cons_ne_nil _ _)]
    rcases ih with rfl | hlast
    · rw [List.getLast?_singleton, Option.some_inj, Option.some_inj]
      exact hquote
    · have hsome : text ≠ [] := by
        rintro rfl
        rcases hlast with hlast | hlast <;> cases hlast
      rw [List.getLast?_cons_of_ne_nil hsome]
      exact hlast

/-- The inside of a start tag neither begins nor ends with a slash. -/
theorem slash_of_spells {name : String} {attributes : List (String × String)} {text : List Char}
    (hname : Node.IsName name) (h : SpellsAttributes attributes text) :
    (name.toList ++ text).getLast? ≠ some '/' := by
  rcases h.getLast? with rfl | hlast
  · rw [List.append_nil]
    intro hslash
    exact absurd (hname.letters '/' (List.mem_of_getLast? hslash)) (by decide)
  · have hsome : text ≠ [] := by
      rintro rfl
      rcases hlast with hlast | hlast <;> cases hlast
    rw [List.getLast?_append_of_ne_nil _ hsome]
    rcases hlast with hlast | hlast <;> rw [hlast] <;> decide

/-- A tag is read whole if it begins with a letter. -/
theorem read_tag {name : String} {inside rest : List Char} (hname : Node.IsName name)
    (hinside : Balanced inside) :
    Token.read '<' (name.toList ++ inside ++ '>' :: rest) =
      .ok ⟨Token.ofTagInside (name.toList ++ inside), '<' :: (name.toList ++ inside ++ ['>']),
        rest⟩ := by
  have hfound := ((balanced_of_isAlpha hname.letters).append hinside) ('>' :: rest) [] rest rfl
  rw [List.append_nil] at hfound
  have htag : Token.readMarkup (name.toList ++ inside ++ '>' :: rest) =
      Token.readTag (name.toList ++ inside ++ '>' :: rest) := by
    obtain ⟨c, letters, hletters⟩ := List.exists_cons_of_ne_nil hname.nonempty
    have hc := hname.letters c (by simp [hletters])
    rw [hletters]
    unfold Token.readMarkup
    split
    · rename_i heq
      exact absurd (List.cons.inj heq).1 (ne_of_isAlpha hc (by decide))
    · rename_i heq
      exact absurd (List.cons.inj heq).1 (ne_of_isAlpha hc (by decide))
    · rfl
  rw [Token.read, if_pos rfl, htag, Token.readTag, hfound]
  simp [Token.lexeme]

theorem ofTagInside_of_isName {name : String} (h : Node.IsName name) (inside : List Char) :
    Token.ofTagInside (name.toList ++ inside) =
      if (name.toList ++ inside).getLast? = some '/' then
        .emptyTag ⟨(name.toList ++ inside).dropLast⟩
      else .startTag ⟨name.toList ++ inside⟩ := by
  obtain ⟨c, letters, hletters⟩ := List.exists_cons_of_ne_nil h.nonempty
  have hc := h.letters c (by simp [hletters])
  rw [hletters]
  unfold Token.ofTagInside
  split
  · rename_i heq
    exact absurd (List.cons.inj heq).1 (ne_of_isAlpha hc (by decide))
  · rfl

variable {name : String} {attributes : List (String × String)} {text rest : List Char}

theorem read_startTag (hname : Node.IsName name) (hnames : ∀ a ∈ attributes, Node.IsName a.1)
    (h : SpellsAttributes attributes text) :
    Token.read '<' (name.toList ++ text ++ '>' :: rest) =
      .ok ⟨.startTag ⟨name.toList ++ text⟩, '<' :: (name.toList ++ text ++ ['>']), rest⟩ := by
  rw [read_tag hname (h.balanced hnames), ofTagInside_of_isName hname,
    if_neg (slash_of_spells hname h)]

theorem read_emptyTag (hname : Node.IsName name) (hnames : ∀ a ∈ attributes, Node.IsName a.1)
    (h : SpellsAttributes attributes text) :
    Token.read '<' (name.toList ++ text ++ '/' :: '>' :: rest) =
      .ok ⟨.emptyTag ⟨name.toList ++ text⟩, '<' :: (name.toList ++ text ++ ['/', '>']), rest⟩ := by
  have hinside := (h.balanced hnames).append (@balanced_singleton '/' (by decide))
  have hread := @read_tag name _ rest hname hinside
  rw [ofTagInside_of_isName hname, ← List.append_assoc, if_pos (by simp)] at hread
  simpa using hread

theorem closingName_of_isName (h : Node.IsName name) :
    Token.closingName name.toList = name.toList := by
  have hkeep : Text.dropTrailing isBlank name.toList = name.toList := by
    rw [Text.dropTrailing, List.dropWhile_eq_self_iff.2, List.reverse_reverse]
    intro hpos
    have hmem := List.mem_reverse.1 (List.getElem_mem hpos)
    rw [isBlank_of_isAlpha (h.letters _ hmem)]
    decide
  rw [Token.closingName, hkeep]
  split <;> rfl

theorem read_endTag (hname : Node.IsName name) :
    Token.read '<' ('/' :: (name.toList ++ '>' :: rest)) =
      .ok ⟨.endTag name.toList, '<' :: '/' :: (name.toList ++ ['>']), rest⟩ := by
  have hslash : Balanced ['/'] := balanced_singleton (by decide)
  have hfound := (hslash.append (balanced_of_isAlpha hname.letters)) ('>' :: rest) [] rest rfl
  have htag : Token.readTag ('/' :: (name.toList ++ '>' :: rest)) =
      .ok (Token.lexeme (.endTag (Token.closingName name.toList)) ['<'] ('/' :: name.toList) ['>']
        rest) := by
    rw [List.append_nil] at hfound
    simp only [Token.readTag]
    rw [show '/' :: (name.toList ++ '>' :: rest) = ['/'] ++ name.toList ++ '>' :: rest from rfl,
      hfound]
    rfl
  rw [closingName_of_isName hname] at htag
  exact htag

theorem read_comment {inside : List Char} (h : ∀ c ∈ inside, c.isAlpha = true ∨ c = ' ') :
    Token.read '<' ('!' :: '-' :: '-' :: (inside ++ '-' :: '-' :: '>' :: rest)) =
      .ok ⟨.comment inside, "<!--".toList ++ inside ++ "-->".toList, rest⟩ := by
  have hdash : '-' ∉ inside := by
    intro hmem
    rcases h '-' hmem with hletter | hspace
    · exact absurd hletter (by decide)
    · exact absurd hspace (by decide)
  have hsplit := @Text.splitAt?_append ['-', '>'] inside rest '-' hdash
  have hdeclared : Token.readDeclared ('-' :: '-' :: (inside ++ '-' :: '-' :: '>' :: rest)) =
      .ok ⟨.comment inside, "<!--".toList ++ inside ++ "-->".toList, rest⟩ := by
    have hfound : (Text.after? ['-'] ('-' :: (inside ++ '-' :: '-' :: '>' :: rest))).bind
        (Text.splitAt? "-->".toList) = some (inside, rest) := by
      simp only [Text.after?, if_true, Option.bind_some]
      exact hsplit
    simp only [Token.readDeclared, hfound]
    rfl
  exact hdeclared

theorem read_characters {c : Char} {raw : List Char} (hc : '<' ≠ c) (hraw : '<' ∉ raw)
    (hrest : ∀ d ∈ rest.head?, d = '<') :
    Token.read c (raw ++ rest) = .ok ⟨.characters (c :: raw), c :: raw, rest⟩ := by
  have hall : ∀ d ∈ raw, (d != '<') = true := by
    intro d hd
    rw [bne_iff_ne]
    rintro rfl
    exact hraw hd
  have htake : (raw ++ rest).takeWhile (· != '<') = raw := by
    rw [List.takeWhile_append_of_pos hall]
    cases rest with
    | nil => simp
    | cons d rest => rw [hrest d rfl, List.takeWhile_cons_of_neg (by decide), List.append_nil]
  have hdrop : (raw ++ rest).dropWhile (· != '<') = rest := by
    rw [List.dropWhile_append_of_pos hall]
    cases rest with
    | nil => rfl
    | cons d rest => rw [hrest d rfl, List.dropWhile_cons_of_neg (by decide)]
  rw [Token.read, if_neg (Ne.symm hc)]
  simp only [htake, hdrop]

/-! ### Names -/

theorem ofText_of_isName {name : String} (h : Node.IsName name) :
    RawName.ofText name.toList = ⟨none, name.toList⟩ := by
  have hnone : name.toList.dropWhile (· != ':') = [] := by
    rw [List.dropWhile_eq_nil_iff]
    intro c hc
    simpa using ne_of_isAlpha (h.letters c hc) (by decide)
  rw [RawName.ofText, hnone]

/-- Only the name `xmlns` itself would declare a namespace. -/
theorem boundLabel?_of_isName {name : String} (h : Node.IsName name) (hname : name ≠ "xmlns") :
    boundLabel? name.toList = none := by
  unfold boundLabel?
  split
  · rename_i hrest
    have hwhole := Text.append_after? hrest
    rw [List.append_nil, String.toList_inj] at hwhole
    exact absurd hwhole.symm hname
  · rename_i label hrest
    have hwhole := Text.append_after? hrest
    have hcolon : ':' ∈ name.toList := by rw [← hwhole]; simp
    exact absurd (h.letters ':' hcolon) (by decide)
  · rfl

theorem enter_of_none {scope : Scope} {attributes : List RawAttribute}
    (h : ∀ a ∈ attributes, boundLabel? a.key = none) : scope.enter attributes = .ok scope := by
  induction attributes with
  | nil => rfl
  | cons a attributes ih =>
    obtain ⟨ha, hrest⟩ := List.forall_mem_cons.1 h
    rw [Scope.enter, bindingOf?, ha]
    exact ih hrest

/-! ### The laws -/

/-- What the results on texts need of the tokenizer. -/
structure TokenizerLaws : Prop where
  /-- A token is the front of the text. -/
  tiles : ∀ {first : Char} {text : List Char} {l : Lexeme}, Token.read first text = .ok l →
    l.source ++ l.rest = first :: text
  nonempty : ∀ {first : Char} {text : List Char} {l : Lexeme}, Token.read first text = .ok l →
    l.source ≠ []
  /-- It is a run of text up to the next opening bracket, or it stands between brackets. -/
  runs : ∀ {first : Char} {text : List Char} {l : Lexeme}, Token.read first text = .ok l →
    (l.token = .characters l.source ∧ l.source.head? = some first ∧ '<' ∉ l.source ∧
      ∀ c ∈ l.rest.head?, c = '<') ∨ l.IsMarkup
  /-- A tag that is read to its end has the attributes that can be read of it. -/
  complete : ∀ {t : TagContent}, t.attributes.2 = none → t.readableAttributes = t.attributes.1
  /-- Escaping is undone. -/
  expands : ∀ text, Reference.expand (escape text) = .ok text
  /-- Tags, comments and texts are read as they are written. -/
  startTag : ∀ {name : String} {attributes : List (String × String)} {text : List Char},
    Node.IsName name → (∀ a ∈ attributes, Node.IsName a.1) → SpellsAttributes attributes text →
      ∀ rest, Token.read '<' (name.toList ++ text ++ '>' :: rest) =
        .ok ⟨.startTag ⟨name.toList ++ text⟩, '<' :: (name.toList ++ text ++ ['>']), rest⟩
  emptyTag : ∀ {name : String} {attributes : List (String × String)} {text : List Char},
    Node.IsName name → (∀ a ∈ attributes, Node.IsName a.1) → SpellsAttributes attributes text →
      ∀ rest, Token.read '<' (name.toList ++ text ++ '/' :: '>' :: rest) =
        .ok ⟨.emptyTag ⟨name.toList ++ text⟩, '<' :: (name.toList ++ text ++ ['/', '>']), rest⟩
  endTag : ∀ {name : String}, Node.IsName name → ∀ rest,
    Token.read '<' ('/' :: (name.toList ++ '>' :: rest)) =
      .ok ⟨.endTag name.toList, '<' :: '/' :: (name.toList ++ ['>']), rest⟩
  comment : ∀ {inside : List Char}, (∀ c ∈ inside, c.isAlpha = true ∨ c = ' ') → ∀ rest,
    Token.read '<' ('!' :: '-' :: '-' :: (inside ++ '-' :: '-' :: '>' :: rest)) =
      .ok ⟨.comment inside, "<!--".toList ++ inside ++ "-->".toList, rest⟩
  characters : ∀ {c : Char} {raw rest : List Char}, '<' ≠ c → '<' ∉ raw →
    (∀ d ∈ rest.head?, d = '<') →
      Token.read c (raw ++ rest) = .ok ⟨.characters (c :: raw), c :: raw, rest⟩
  /-- So are the name and the attributes of a tag. -/
  tagName : ∀ {name : String} {attributes : List (String × String)} {text : List Char},
    Node.IsName name → SpellsAttributes attributes text →
      (TagContent.mk (name.toList ++ text)).name = name.toList
  tagAttributes : ∀ {name : String} {attributes : List (String × String)} {text : List Char},
    Node.IsName name → Node.AreAttributes attributes → SpellsAttributes attributes text →
      (TagContent.mk (name.toList ++ text)).attributes = (attributes.map written, none)
  /-- A name of letters has no label, and only one declares a namespace. -/
  name : ∀ {name : String}, Node.IsName name → RawName.ofText name.toList = ⟨none, name.toList⟩
  noDeclaration : ∀ {name : String}, Node.IsName name → name ≠ "xmlns" →
    boundLabel? name.toList = none
  /-- Without a declaration the namespaces stay in force. -/
  scope : ∀ {scope : Scope} {attributes : List RawAttribute},
    (∀ a ∈ attributes, boundLabel? a.key = none) → scope.enter attributes = .ok scope

theorem tokenizerLaws : TokenizerLaws where
  tiles := Token.append_read
  nonempty h := List.ne_nil_of_length_pos (Token.source_pos h)
  runs := read_cases
  complete := TagContent.readableAttributes_eq
  expands := Reference.expand_escape
  startTag hname hnames h _ := read_startTag hname hnames h
  emptyTag hname hnames h _ := read_emptyTag hname hnames h
  endTag hname _ := read_endTag hname
  comment h _ := read_comment h
  characters := read_characters
  tagName hname h := (name_of_spells hname h).1
  tagAttributes := attributes_of_spells
  name := ofText_of_isName
  noDeclaration := boundLabel?_of_isName
  scope := enter_of_none

end StreamSelect.Markup
