import QueryConsole.Proofs.Command.Quoting

/-!
# Templates

A text is a template for its variables. It consists of literal stretches and of references, and
there is one way only to take it apart into these. The pieces follow from the text alone. Expanding
the text fills in the values, which are not looked at.
-/

namespace QueryConsole.Command

/-- A piece of a template. -/
inductive Piece where
  | literal (s : Text)
  /-- A dollar sign and an identifier. -/
  | plain (name : Text)
  /-- A dollar sign and a name in braces. -/
  | braced (name : Text)
deriving DecidableEq, Repr

namespace Piece

/-- What stands in the text for a piece. -/
def source : Piece → Text
  | literal s => s
  | plain name => '$' :: name
  | braced name => '$' :: '{' :: name ++ ['}']

/-- What stands for a piece once variables have values. -/
def fill (lookup : Lookup) : Piece → Text
  | literal s => s
  | plain name | braced name => (lookup name).getD []

def isLiteral : Piece → Bool
  | literal _ => true
  | _ => false

end Piece

/-- Behind a dollar sign this text makes a reference: an identifier begins it, or a name in
braces. -/
def BeginsReference (t : Text) : Prop :=
  (∃ c ∈ t.head?, Text.isIdentifierChar c = true) ∨
    ∃ name rest, t = '{' :: name ++ '}' :: rest ∧ name ≠ [] ∧ '}' ∉ name

/-- The piece can stand in a template before the text `rest`. No dollar sign of a literal makes a
reference, and an identifier does not go on in `rest`. -/
def Piece.Fits (rest : Text) : Piece → Prop
  | literal s => s ≠ [] ∧ ∀ a b, s = a ++ '$' :: b → ¬BeginsReference (b ++ rest)
  | plain name => name ≠ [] ∧ Run.Maximal Text.isIdentifierChar name rest
  | braced name => name ≠ [] ∧ '}' ∉ name

/-- The pieces make up the text, and no two literals follow one another. -/
inductive IsTemplate : List Piece → Text → Prop
  | nil : IsTemplate [] []
  | cons {p : Piece} {ps : List Piece} {t : Text} : p.Fits t →
      (p.isLiteral = true → ∀ q ∈ ps.head?, q.isLiteral = false) → IsTemplate ps t →
      IsTemplate (p :: ps) (p.source ++ t)

theorem IsTemplate.flatMap_source {ps : List Piece} {t : Text} (h : IsTemplate ps t) :
    ps.flatMap Piece.source = t := by
  induction h with
  | nil => rfl
  | cons _ _ _ ih => rw [List.flatMap_cons, ih]

/-! ### References -/

section References

variable {name rest t : Text}

theorem not_isIdentifierChar_brace : Text.isIdentifierChar '{' = false := by decide +kernel

/-- A name in braces ends at the first closing brace. -/
theorem reference?_braced (hne : name ≠ []) (hname : '}' ∉ name) :
    reference? ('{' :: name ++ '}' :: rest) = some (name, rest) := by
  have hall : ∀ c ∈ name, (c != '}') = true := by
    intro c hc
    rw [bne_iff_ne]
    rintro rfl
    exact hname hc
  have hhead : ∀ c ∈ ('}' :: rest).head?, (c != '}') = false := by simp
  have htake := Run.takeWhile_append hall hhead
  have hdrop := Run.dropWhile_append hall hhead
  simp only [reference?, List.cons_append, htake, hdrop, List.isEmpty_iff, hne, ↓reduceIte]

theorem reference?_of_head?_ne (h : t.head? ≠ some '{') :
    reference? t = if (t.takeWhile Text.isIdentifierChar).isEmpty then none
      else some (t.takeWhile Text.isIdentifierChar, t.dropWhile Text.isIdentifierChar) := by
  unfold reference?
  split
  · exact absurd rfl h
  · rfl

theorem head?_identifier_ne (hne : name ≠ []) (hname : ∀ c ∈ name, Text.isIdentifierChar c = true) :
    (name ++ rest).head? ≠ some '{' := by
  obtain ⟨c, s, rfl⟩ := List.exists_cons_of_ne_nil hne
  rintro ⟨⟩
  cases not_isIdentifierChar_brace.symm.trans (hname '{' List.mem_cons_self)

/-- An identifier is taken as far as it goes. -/
theorem reference?_plain (hne : name ≠ []) (hname : Run.Maximal Text.isIdentifierChar name rest) :
    reference? (name ++ rest) = some (name, rest) := by
  rw [reference?_of_head?_ne (head?_identifier_ne hne hname.1),
    Run.takeWhile_append hname.1 hname.2, Run.dropWhile_append hname.1 hname.2]
  simp [hne]

/-- What is read as a reference is an identifier as far as it goes, or a name in braces. -/
theorem reference?_eq_some_iff : reference? t = some (name, rest) ↔
    name ≠ [] ∧ (t = name ++ rest ∧ Run.Maximal Text.isIdentifierChar name rest ∨
      t = '{' :: name ++ '}' :: rest ∧ '}' ∉ name) := by
  constructor
  · intro h
    unfold reference? at h
    split at h
    · next s =>
      have hrow := Run.maximal_takeWhile (· != '}') s
      have hs := List.takeWhile_append_dropWhile (p := (· != '}')) (l := s)
      dsimp only at h
      split at h
      · cases h
      · next c r hr =>
        split at h
        · cases h
        · next hne =>
          obtain ⟨rfl, rfl⟩ := Prod.mk.inj (Option.some.inj h)
          rw [hr] at hrow hs
          obtain rfl : c = '}' := by simpa using hrow.2 c rfl
          refine ⟨by simpa using hne, .inr ⟨by rw [List.cons_append, hs], ?_⟩⟩
          intro hmem
          simpa using hrow.1 _ hmem
    · dsimp only at h
      split at h
      · cases h
      · next hne =>
        obtain ⟨rfl, rfl⟩ := Prod.mk.inj (Option.some.inj h)
        exact ⟨by simpa using hne,
          .inl ⟨List.takeWhile_append_dropWhile.symm, Run.maximal_takeWhile _ t⟩⟩
  · rintro ⟨hne, ⟨rfl, hname⟩ | ⟨rfl, hname⟩⟩
    · exact reference?_plain hne hname
    · exact reference?_braced hne hname

theorem reference?_eq_none_iff : reference? t = none ↔ ¬BeginsReference t := by
  rw [← not_iff_not, ← ne_eq, Option.ne_none_iff_exists', not_not]
  constructor
  · rintro ⟨⟨name, rest⟩, h⟩
    obtain ⟨hne, ⟨rfl, hname⟩ | ⟨rfl, hname⟩⟩ := reference?_eq_some_iff.1 h
    · obtain ⟨c, s, rfl⟩ := List.exists_cons_of_ne_nil hne
      exact .inl ⟨c, rfl, hname.1 c List.mem_cons_self⟩
    · exact .inr ⟨name, rest, rfl, hne, hname⟩
  · rintro (⟨c, hc, hident⟩ | ⟨name, rest, rfl, hne, hname⟩)
    · obtain ⟨s, rfl⟩ := List.head?_eq_some_iff.1 hc
      refine ⟨_, reference?_eq_some_iff.2 ⟨?_, .inl
        ⟨List.takeWhile_append_dropWhile.symm, Run.maximal_takeWhile Text.isIdentifierChar _⟩⟩⟩
      simp [hident]
    · exact ⟨_, reference?_braced hne hname⟩

end References

/-! ### The template of a text -/

/-- Puts a character in front of the literal that begins the given pieces. -/
def Piece.consLiteral (c : Char) : List Piece → List Piece
  | literal s :: ps => literal (c :: s) :: ps
  | ps => literal [c] :: ps

/-- The reference with the given name that begins with a dollar sign before `t`. -/
def Piece.reference (t name : Text) : Piece :=
  if t.head? = some '{' then braced name else plain name

/-- The pieces of a text. -/
def template : Text → List Piece
  | [] => []
  | c :: t =>
    if c = '$' then
      match _h : reference? t with
      | some (name, rest) => Piece.reference t name :: template rest
      | none => Piece.consLiteral c (template t)
    else Piece.consLiteral c (template t)
termination_by t => t.length
decreasing_by
  · exact Nat.lt_succ_of_le (length_reference?_le _h)
  · exact Nat.lt_succ_self _
  · exact Nat.lt_succ_self _

section Template

variable {c : Char} {name rest t : Text} {ps : List Piece}

@[simp] theorem Piece.isLiteral_reference (t name : Text) :
    (reference t name).isLiteral = false := by
  unfold reference
  split <;> rfl

@[simp] theorem Piece.fill_reference (lookup : Lookup) (t name : Text) :
    (reference t name).fill lookup = (lookup name).getD [] := by
  unfold reference
  split <;> rfl

theorem Piece.reference_plain (hne : name ≠ [])
    (hname : ∀ c ∈ name, Text.isIdentifierChar c = true) :
    reference (name ++ rest) name = plain name := if_neg (head?_identifier_ne hne hname)

theorem Piece.reference_braced : reference ('{' :: t) name = braced name := if_pos rfl

/-- What is read behind a dollar sign is a piece that fits. -/
theorem fits_of_reference? (h : reference? t = some (name, rest)) :
    (Piece.reference t name).source ++ rest = '$' :: t ∧ (Piece.reference t name).Fits rest := by
  obtain ⟨hne, ⟨rfl, hname⟩ | ⟨rfl, hname⟩⟩ := reference?_eq_some_iff.1 h
  · rw [Piece.reference_plain hne hname.1]
    exact ⟨rfl, hne, hname⟩
  · rw [List.cons_append, Piece.reference_braced]
    exact ⟨by simp [Piece.source], hne, hname⟩

theorem template_of_reference? (h : reference? t = some (name, rest)) :
    template ('$' :: t) = Piece.reference t name :: template rest := by
  rw [template, if_pos rfl]
  split
  · next h' =>
    obtain ⟨rfl, rfl⟩ := Prod.mk.inj (Option.some.inj (h'.symm.trans h))
    rfl
  · next h' => cases h'.symm.trans h

theorem template_cons (h : c = '$' → ¬BeginsReference t) :
    template (c :: t) = Piece.consLiteral c (template t) := by
  rw [template]
  split
  · next hc =>
    have hnone := reference?_eq_none_iff.2 (h hc)
    split
    · next h' => cases h'.symm.trans hnone
    · rfl
  · rfl

/-- A literal that begins a template can be one character longer. -/
theorem IsTemplate.consLiteral (hc : c = '$' → ¬BeginsReference t) (h : IsTemplate ps t) :
    IsTemplate (Piece.consLiteral c ps) (c :: t) := by
  have hsingle (hps : ∀ q ∈ ps.head?, q.isLiteral = false) :
      IsTemplate (.literal [c] :: ps) (c :: t) := by
    refine .cons (t := t) ⟨List.cons_ne_nil _ _, ?_⟩ (fun _ => hps) h
    intro a b hab
    cases a with
    | nil =>
      obtain ⟨rfl, rfl⟩ := List.cons.inj hab
      exact hc rfl
    | cons d a => simp at hab
  unfold Piece.consLiteral
  split
  · next s qs =>
    cases h with
    | @cons _ _ u hfits hnext hrest =>
      refine .cons (p := .literal (c :: s)) ⟨List.cons_ne_nil _ _, ?_⟩ hnext hrest
      intro a b hab
      cases a with
      | nil =>
        obtain ⟨rfl, rfl⟩ := List.cons.inj hab
        exact hc rfl
      | cons d a => exact hfits.2 a b (List.cons.inj hab).2
  · next hps =>
    apply hsingle
    intro q hq
    obtain ⟨qs, rfl⟩ := List.head?_eq_some_iff.1 hq
    cases q with
    | literal s => exact absurd rfl (hps s qs)
    | _ => rfl

theorem isTemplate_template (t : Text) : IsTemplate (template t) t := by
  fun_induction template t with
  | case1 => exact .nil
  | case2 t name rest h ih =>
    obtain ⟨hsource, hfits⟩ := fits_of_reference? h
    rw [← hsource]
    exact .cons hfits (by simp) ih
  | case3 t h ih => exact ih.consLiteral fun _ => reference?_eq_none_iff.1 h
  | case4 c t hc ih => exact ih.consLiteral fun h => absurd h hc

theorem template_literal_append {s : Text} (hs : (Piece.literal s).Fits t)
    (hnext : ∀ q ∈ (template t).head?, q.isLiteral = false) :
    template (s ++ t) = .literal s :: template t := by
  have hlast (c : Char) : Piece.consLiteral c (template t) = .literal [c] :: template t := by
    unfold Piece.consLiteral
    split
    · next u ps hu =>
      exact absurd (hnext (.literal u) (by rw [hu]; rfl)) (by simp [Piece.isLiteral])
    · rfl
  obtain ⟨hne, hdollar⟩ := hs
  induction s with
  | nil => exact absurd rfl hne
  | cons c s ih =>
    rw [List.cons_append, template_cons fun hc => hdollar [] s (by rw [hc]; rfl)]
    by_cases hs : s = []
    · rw [hs, List.nil_append]
      exact hlast c
    · have hrest := ih hs fun a b hab => hdollar (c :: a) b (by rw [hab]; rfl)
      rw [hrest]
      rfl

/-- There is one way only to take a text apart. -/
theorem isTemplate_iff : IsTemplate ps t ↔ ps = template t := by
  constructor
  · intro h
    induction h with
    | nil => rw [template]
    | @cons p ps t hfits hnext _ ih =>
      rw [ih] at hnext ⊢
      cases p with
      | literal s => exact (template_literal_append hfits (hnext rfl)).symm
      | plain name =>
        have hread := template_of_reference? (reference?_plain hfits.1 hfits.2)
        rw [Piece.reference_plain hfits.1 hfits.2.1] at hread
        exact hread.symm
      | braced name =>
        have hname : reference? ('{' :: name ++ '}' :: t) = some (name, t) :=
          reference?_braced hfits.1 hfits.2
        have hread := template_of_reference? hname
        rw [List.cons_append, Piece.reference_braced] at hread
        simpa [Piece.source] using hread.symm
  · rintro rfl
    exact isTemplate_template t

theorem Piece.flatMap_fill_consLiteral (lookup : Lookup) (c : Char) (ps : List Piece) :
    (consLiteral c ps).flatMap (fill lookup) = c :: ps.flatMap (fill lookup) := by
  unfold consLiteral
  split <;> simp [fill]

/-- Expanding a text fills in its template. -/
theorem expand_eq_flatMap_fill (lookup : Lookup) (t : Text) :
    expand lookup t = (template t).flatMap (Piece.fill lookup) := by
  fun_induction expand lookup t with
  | case1 => rw [template, List.flatMap_nil]
  | case2 t name rest h ih =>
    rw [template_of_reference? h, List.flatMap_cons, Piece.fill_reference, ih]
  | case3 t h ih =>
    rw [template_cons fun _ => reference?_eq_none_iff.1 h, Piece.flatMap_fill_consLiteral, ih]
  | case4 c t hc ih =>
    rw [template_cons fun h => absurd h hc, Piece.flatMap_fill_consLiteral, ih]

/-- Every text has one template, whatever the values of variables are. Expanding it puts the
literals and the values behind one another, and nothing for a variable without a value. A text
without dollar signs is left as it is. -/
theorem exists_template (t : Text) :
    ∃ ps, IsTemplate ps t ∧ (∀ qs, IsTemplate qs t → qs = ps) ∧ ps.flatMap Piece.source = t ∧
      (∀ lookup, expand lookup t = ps.flatMap (Piece.fill lookup)) ∧
      ('$' ∉ t → ∀ lookup, expand lookup t = t) := by
  have htemplate := isTemplate_template t
  exact ⟨template t, htemplate, fun qs hqs => isTemplate_iff.1 hqs, htemplate.flatMap_source,
    fun lookup => expand_eq_flatMap_fill lookup t, fun h lookup => expand_of_notMem lookup h⟩

end Template

end QueryConsole.Command
