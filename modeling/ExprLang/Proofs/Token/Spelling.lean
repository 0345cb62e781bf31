import ExprLang.Token.Scan

/-!
# How tokens are written

A token that is read stands in the text as it is written.  Words and symbols have one spelling or two,
and what a token carries with it is taken over from the text unchanged: a name and a number with a
point are what stands there, a marked name is what stands behind its marker, and a string is what
stands between its quotes, whichever quotes these are.

## Main definitions

* `Token.Spells` — the spellings of a token.
* `Takes` — characters begin with a spelling of a token.

## Main results

* `scanToken_takes` — what is read off the front of some characters is a spelling of the token.
-/

namespace ExprLang

/-- The characters are a spelling of the token. -/
def Token.Spells : Token → List Char → Prop
  | .integer n, cs => cs.all Char.isDigit ∧ Integer.read? cs = some n
  | .decimal digits, cs => cs = digits.toList
  | .string body, cs =>
    ∃ quote, (quote = '\'' ∨ quote = '"') ∧ cs = quote :: (body.toList ++ [quote])
  | .identifier name, cs => cs = name.toList
  | .binding name, cs => cs = '#' :: name.toList
  | .component name, cs => cs = '@' :: name.toList
  | .operator .and, cs => cs = "and".toList ∨ cs = "&&".toList
  | .operator .or, cs => cs = "or".toList ∨ cs = "||".toList
  | .not, cs => cs = "not".toList ∨ cs = "!".toList
  | t, cs => cs = t.text.toList

/-- The first `n` of the characters are a spelling of the token. -/
def Takes (t : Token) (n : Nat) (cs : List Char) : Prop :=
  ∃ piece tail, cs = piece ++ tail ∧ n = piece.length ∧ t.Spells piece

section

variable {start n : Nat} {c : Char} {cs rest : List Char} {t : Token}

/-! ### Numbers -/

/-- A number with a point ends where the digits behind the point end. -/
theorem eq_append_of_point {d : Char} (hrest : cs.dropWhile Char.isDigit = '.' :: d :: rest) :
    cs = (cs.takeWhile Char.isDigit ++ '.' :: d :: rest.takeWhile Char.isDigit) ++
      rest.dropWhile Char.isDigit := by
  rw [List.append_assoc, List.cons_append, List.cons_append, List.takeWhile_append_dropWhile,
    ← hrest, List.takeWhile_append_dropWhile]

theorem scanNumber_takes (h : scanNumber start cs = (.ok t, n)) : Takes t n cs := by
  by_cases hpoint : ∃ d rest, cs.dropWhile Char.isDigit = '.' :: d :: rest ∧ d.isDigit
  · obtain ⟨d, rest, hrest, hd⟩ := hpoint
    rw [scanNumber_of_point hrest hd] at h
    cases h
    exact ⟨_, _, eq_append_of_point hrest, rfl, String.toList_ofList.symm⟩
  · rw [scanNumber_of_digits hpoint] at h
    cases hread : Integer.read? (cs.takeWhile Char.isDigit) with
    | none =>
      rw [hread] at h
      cases h
    | some m =>
      rw [hread] at h
      cases h
      exact ⟨_, _, List.takeWhile_append_dropWhile.symm, rfl, List.all_takeWhile, hread⟩

/-! ### Strings -/

/-- A string goes on up to its quote. -/
theorem exists_eq_append_of_stringBody? {quote : Char} {body : List Char}
    (h : stringBody? quote cs = some body) : ∃ tail, cs = body ++ quote :: tail := by
  fun_induction stringBody? quote cs generalizing body with
  | case1 | case2 => cases h
  | case3 c rest ih =>
    obtain ⟨inner, hinner, rfl⟩ := Option.map_eq_some_iff.mp h
    obtain ⟨tail, rfl⟩ := ih hinner
    exact ⟨tail, rfl⟩
  | case4 rest =>
    cases h
    exact ⟨rest, rfl⟩
  | case5 c rest _ _ _ ih =>
    obtain ⟨inner, hinner, rfl⟩ := Option.map_eq_some_iff.mp h
    obtain ⟨tail, rfl⟩ := ih hinner
    exact ⟨tail, rfl⟩

theorem scanString_takes (hquote : c = '\'' ∨ c = '"') (h : scanString start c rest = (.ok t, n)) :
    Takes t n (c :: rest) := by
  unfold scanString at h
  split at h
  · rename_i body hbody
    cases h
    obtain ⟨tail, rfl⟩ := exists_eq_append_of_stringBody? hbody
    refine ⟨c :: (body ++ [c]), tail, ?_, ?_, c, hquote, ?_⟩
    · simp only [List.cons_append, List.append_assoc, List.nil_append]
    · simp only [List.length_cons, List.length_append, List.length_nil]
    · rw [String.toList_ofList]
  · cases h

/-! ### Names and words -/

theorem nameAt_isPrefix (cs : List Char) : nameAt cs <+: cs := by
  unfold nameAt
  split
  · exact List.nil_prefix
  · rename_i c rest
    split
    · exact List.cons_prefix_cons.mpr ⟨rfl, List.takeWhile_prefix _⟩
    · exact List.nil_prefix

theorem scanMarked_takes (token : String → Token)
    (htoken : ∀ name, (token name).Spells (c :: name.toList))
    (h : scanMarked start c token rest = (.ok t, n)) : Takes t n (c :: rest) := by
  unfold scanMarked at h
  split at h
  · cases h
  · rename_i d name hname
    cases h
    obtain ⟨tail, htail⟩ := nameAt_isPrefix rest
    rw [hname] at htail
    refine ⟨c :: d :: name, tail, ?_, rfl, ?_⟩
    · rw [← htail]
      rfl
    · have hspells := htoken (String.ofList (d :: name))
      rwa [String.toList_ofList] at hspells

theorem spells_ite {word reserved : String} {u : Token} (ht : t.Spells reserved.toList)
    (hu : u.Spells word.toList) : (if word = reserved then t else u).Spells word.toList := by
  split
  · rename_i hword
    rw [hword]
    exact ht
  · exact hu

/-- A word is a spelling of its token, whether it is reserved or a name. -/
theorem wordToken_spells (word : String) : (wordToken word).Spells word.toList :=
  spells_ite rfl <| spells_ite rfl <| spells_ite rfl <|
    spells_ite (Or.inl rfl) <| spells_ite (Or.inl rfl) <| spells_ite (Or.inl rfl) <|
    spells_ite rfl rfl

/-! ### Symbols -/

theorem symbolOfTwo?_spells {d : Char} (h : symbolOfTwo? c d = some t) : t.Spells [c, d] := by
  unfold symbolOfTwo? at h
  split at h <;> cases h <;> first | rfl | exact Or.inr rfl

theorem symbolOfOne?_spells (h : symbolOfOne? c = some t) : t.Spells [c] := by
  unfold symbolOfOne? at h
  split at h <;> cases h <;> first | rfl | exact Or.inr rfl

theorem scanSymbol_takes (h : scanSymbol start c rest = (.ok t, n)) : Takes t n (c :: rest) := by
  unfold scanSymbol at h
  split at h
  · rename_i s hs
    cases h
    obtain ⟨d, hd, htwo⟩ := Option.bind_eq_some_iff.mp hs
    obtain ⟨tail, rfl⟩ := List.head?_eq_some_iff.mp hd
    exact ⟨[c, d], tail, rfl, rfl, symbolOfTwo?_spells htwo⟩
  · split at h
    · rename_i s hs
      cases h
      exact ⟨[c], rest, rfl, rfl, symbolOfOne?_spells hs⟩
    · cases h

/-! ### Tokens -/

/-- **A token is read off its own spelling.** -/
theorem scanToken_takes (h : scanToken start c rest = (.ok t, n)) : Takes t n (c :: rest) := by
  -- the branches in the order of the scan, told apart by the first character
  unfold scanToken at h
  split at h
  · exact scanNumber_takes h
  split at h
  · rename_i hquote
    exact scanString_takes hquote h
  split at h
  · rename_i hmarker
    subst hmarker
    exact scanMarked_takes .binding (fun _ => rfl) h
  split at h
  · rename_i hmarker
    subst hmarker
    exact scanMarked_takes .component (fun _ => rfl) h
  split at h
  · cases h
    obtain ⟨tail, htail⟩ := nameAt_isPrefix (c :: rest)
    refine ⟨nameAt (c :: rest), tail, htail.symm, rfl, ?_⟩
    have hspells := wordToken_spells (String.ofList (nameAt (c :: rest)))
    rwa [String.toList_ofList] at hspells
  · exact scanSymbol_takes h

end

end ExprLang
