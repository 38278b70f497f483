import RouteTable.Proofs.Template.Fault
/-!
# Templates as bytes

A reader can also go through the UTF-8 bytes of a template, one at a time, and take the
texts that it needs out of the template by their byte offsets.  Main statement:
`segmentsOfBytes_eq`, such a reader agrees with `segments`, so none of its offsets
lies inside a character.
-/

namespace RouteTable.Template

open RouteTable.Text

/-! ## Bytes and slices -/

def bytes (cs : List Char) : List UInt8 := cs.flatMap String.utf8EncodeChar

/-- Why a reader of bytes stops before the end of a template. -/
inductive Halt where
  | fault (fault : Fault)
  | cutCharacter
  deriving DecidableEq, Repr

def slice (cs : List Char) (start stop : Nat) : Except Halt (List Char) :=
  let (front, rest) := splitAtOffset start cs
  let (text, _) := splitAtOffset (stop - start) rest
  if width front = start ∧ start + width text = stop then .ok text else .error .cutCharacter

/-! ## The reader -/

def bodyAt (cs : List Char) (start : Nat) : Except Halt (Option (Nat × List Char)) := do
  let rest ← slice cs start (width cs)
  match offsetOf? '}' rest with
  | none => return none
  | some n => return some (n, ← slice cs start (start + n))

def placeholderAt (cs : List Char) (i : Nat) : Except Halt (Nat × Segment) := do
  match ← bodyAt cs (i + 2) with
  | none => .error (.fault ⟨.unclosedPlaceholder, i⟩)
  | some (n, body) => return (n, ← (placeholder i body).mapError .fault)

def pathVariableAt (cs : List Char) (i : Nat) : Except Halt (Nat × Segment) := do
  match ← bodyAt cs (i + 1) with
  | none => .error (.fault ⟨.unclosedVariable, i⟩)
  | some (n, body) =>
      let _ ← (pathVariable i body).mapError .fault
      let token ← slice cs i (i + n + 2)
      return (n, .pathVariable token.tail.dropLast)

def pushLiteral (text : List Char) (segments : List Segment) : List Segment :=
  if text = [] then segments else .literal text :: segments

/-- Reads segments from the byte at `i` on.  The literal text in front of it that is not
in a segment yet begins at `literalStart`. -/
def segmentsAt (placeholders : Bool) (cs : List Char) (literalStart i : Nat) :
    Except Halt (List Segment) :=
  match h : (bytes cs)[i]? with
  | none => do
      let text ← slice cs literalStart (width cs)
      return pushLiteral text []
  | some b =>
      if placeholders = true ∧ b = '$'.toUInt8 ∧ (bytes cs)[i + 1]? = some '{'.toUInt8 then do
        let (n, segment) ← placeholderAt cs i
        let text ← slice cs literalStart i
        let segments ← segmentsAt placeholders cs (i + n + 3) (i + n + 3)
        return pushLiteral text (segment :: segments)
      else if b = '{'.toUInt8 then do
        let (n, segment) ← pathVariableAt cs i
        let text ← slice cs literalStart i
        let segments ← segmentsAt placeholders cs (i + n + 2) (i + n + 2)
        return pushLiteral text (segment :: segments)
      else if b = '}'.toUInt8 then .error (.fault ⟨.unmatchedBrace, i⟩)
      else segmentsAt placeholders cs literalStart (i + 1)
termination_by (bytes cs).length - i
decreasing_by
  all_goals
    have := (List.getElem?_eq_some_iff.1 h).1
    omega

def segmentsOfBytes (placeholders : Bool) (template : String) : Except Halt (List Segment) :=
  segmentsAt placeholders template.toList 0 0

/-! ## Bytes of a text -/

theorem length_bytes (cs : List Char) : (bytes cs).length = width cs := by
  induction cs with
  | nil => rfl
  | cons c cs ih =>
      rw [bytes, List.flatMap_cons, List.length_append, String.length_utf8EncodeChar, width_cons,
        ← ih, bytes]

theorem getElem?_bytes_append (front rest : List Char) (n : Nat) :
    (bytes (front ++ rest))[width front + n]? = (bytes rest)[n]? := by
  rw [bytes, List.flatMap_append, ← bytes, ← bytes, ← length_bytes,
    List.getElem?_append_right (Nat.le_add_right _ _), Nat.add_sub_cancel_left]

/-- A byte below 128 is never part of the encoding of a longer character. -/
theorem toNat_of_mem_utf8EncodeChar {b : UInt8} {c : Char} (hb : b ∈ String.utf8EncodeChar c)
    (hascii : b.toNat < 128) : c.toNat = b.toNat := by
  have hof (n : Nat) : (UInt8.ofNat n).toNat = n % 256 := UInt8.toNat_ofNat'
  rw [Char.toNat]
  simp only [String.utf8EncodeChar] at hb
  split at hb
  · obtain rfl := List.mem_singleton.1 hb
    rw [hof]
    omega
  · exfalso
    split at hb
    · simp only [List.mem_cons, List.not_mem_nil, or_false] at hb
      rcases hb with rfl | rfl <;> rw [hof] at hascii <;> omega
    · split at hb
      · simp only [List.mem_cons, List.not_mem_nil, or_false] at hb
        rcases hb with rfl | rfl | rfl <;> rw [hof] at hascii <;> omega
      · simp only [List.mem_cons, List.not_mem_nil, or_false] at hb
        rcases hb with rfl | rfl | rfl | rfl <;> rw [hof] at hascii <;> omega

/-- A sign of the grammar is told from other characters by any one byte. -/
theorem eq_of_getElem?_bytes {c d : Char} {cs : List Char} {n : Nat} (hd : d.utf8Size = 1)
    (hn : n < c.utf8Size) (h : (bytes (c :: cs))[n]? = some d.toUInt8) : c = d := by
  rw [bytes, List.flatMap_cons, List.getElem?_append_left (by rwa [String.length_utf8EncodeChar])]
    at h
  have hval : d.val.toNat ≤ 127 := Char.utf8Size_eq_one_iff.1 hd
  have hbyte : d.toUInt8.toNat = d.toNat := by
    rw [Char.toUInt8, UInt32.toNat_toUInt8, Char.toNat]
    omega
  have hnat := toNat_of_mem_utf8EncodeChar (List.mem_of_getElem? h)
    (by rw [hbyte, Char.toNat]; omega)
  exact Char.toNat_inj.1 (hnat.trans hbyte)

theorem head?_eq_of_getElem?_bytes {d : Char} {cs : List Char} (hd : d.utf8Size = 1)
    (h : (bytes cs)[0]? = some d.toUInt8) : cs.head? = some d := by
  cases cs with
  | nil => simp [bytes] at h
  | cons c cs => rw [List.head?_cons, eq_of_getElem?_bytes hd c.utf8Size_pos h]

theorem getElem?_bytes_width {c : Char} (hc : c.utf8Size = 1) (front rest : List Char) :
    (bytes (front ++ c :: rest))[width front]? = some c.toUInt8 := by
  have h := getElem?_bytes_append front (c :: rest) 0
  rw [Nat.add_zero] at h
  rw [h, bytes, List.flatMap_cons, String.utf8EncodeChar_eq_singleton hc]
  rfl

/-! ## Slices between characters -/

theorem slice_append (xs ys zs : List Char) :
    slice (xs ++ (ys ++ zs)) (width xs) (width xs + width ys) = .ok ys := by
  simp only [slice, splitAtOffset_append, Nat.add_sub_cancel_left, and_self, ↓reduceIte]

theorem slice_width (xs ys : List Char) :
    slice (xs ++ ys) (width xs) (width (xs ++ ys)) = .ok ys := by
  have h := slice_append xs ys []
  rwa [List.append_nil, ← width_append] at h

theorem bodyAt_of_not_mem {rest : List Char} (front opener : List Char) (h : '}' ∉ rest) :
    bodyAt (front ++ (opener ++ rest)) (width front + width opener) = .ok none := by
  rw [← List.append_assoc, ← width_append, bodyAt, slice_width, ok_bind,
    (offsetOf?_eq_none_iff _ _).2 h]
  rfl

theorem bodyAt_append {body : List Char} (front opener rest : List Char) (h : '}' ∉ body) :
    bodyAt (front ++ (opener ++ (body ++ '}' :: rest))) (width front + width opener) =
      .ok (some (width body, body)) := by
  rw [← List.append_assoc, ← width_append, bodyAt, slice_width, ok_bind, offsetOf?_append h]
  dsimp only
  rw [slice_append, ok_bind]
  rfl

/-! ## Tokens between characters -/

section

variable {front body rest : List Char}

theorem placeholderAt_of_not_mem (h : '}' ∉ rest) :
    placeholderAt (front ++ '$' :: '{' :: rest) (width front) =
      .error (.fault ⟨.unclosedPlaceholder, width front⟩) := by
  have hbody : bodyAt (front ++ '$' :: '{' :: rest) (width front + 2) = .ok none :=
    bodyAt_of_not_mem front ['$', '{'] h
  rw [placeholderAt, hbody, ok_bind]

theorem placeholderAt_append (h : '}' ∉ body) :
    placeholderAt (front ++ '$' :: '{' :: (body ++ '}' :: rest)) (width front) =
      ((placeholder (width front) body).mapError .fault).map fun segment =>
        (width body, segment) := by
  have hbody : bodyAt (front ++ '$' :: '{' :: (body ++ '}' :: rest)) (width front + 2) =
      .ok (some (width body, body)) := bodyAt_append front ['$', '{'] rest h
  rw [placeholderAt, hbody, ok_bind]
  rfl

theorem pathVariableAt_of_not_mem (h : '}' ∉ rest) :
    pathVariableAt (front ++ '{' :: rest) (width front) =
      .error (.fault ⟨.unclosedVariable, width front⟩) := by
  have hbody : bodyAt (front ++ '{' :: rest) (width front + 1) = .ok none :=
    bodyAt_of_not_mem front ['{'] h
  rw [pathVariableAt, hbody, ok_bind]

theorem pathVariableAt_append (h : '}' ∉ body) :
    pathVariableAt (front ++ '{' :: (body ++ '}' :: rest)) (width front) =
      ((pathVariable (width front) body).mapError .fault).map fun segment =>
        (width body, segment) := by
  have hbody : bodyAt (front ++ '{' :: (body ++ '}' :: rest)) (width front + 1) =
      .ok (some (width body, body)) := bodyAt_append front ['{'] rest h
  have htoken : slice (front ++ '{' :: (body ++ '}' :: rest)) (width front)
      (width front + width body + 2) = .ok ('{' :: (body ++ ['}'])) := by
    have hslice := slice_append front ('{' :: (body ++ ['}'])) rest
    rw [width_pathVariable, width_nil, Nat.add_zero, ← Nat.add_assoc] at hslice
    simpa using hslice
  rw [pathVariableAt, hbody, ok_bind]
  dsimp only
  rw [htoken]
  cases hread : pathVariable (width front) body with
  | error fault => rfl
  | ok segment =>
      obtain ⟨-, -, rfl⟩ := pathVariable_eq_ok_iff.1 hread
      simp [mapError_ok, ok_bind, Except.map, pure, Except.pure]

end

/-! ## The reader by its first sign -/

section

variable {placeholders : Bool} {cs : List Char} {literalStart i : Nat} {b : UInt8}

theorem segmentsAt_of_some (h : (bytes cs)[i]? = some b) :
    segmentsAt placeholders cs literalStart i =
      if placeholders = true ∧ b = '$'.toUInt8 ∧ (bytes cs)[i + 1]? = some '{'.toUInt8 then do
        let (n, segment) ← placeholderAt cs i
        let text ← slice cs literalStart i
        let segments ← segmentsAt placeholders cs (i + n + 3) (i + n + 3)
        return pushLiteral text (segment :: segments)
      else if b = '{'.toUInt8 then do
        let (n, segment) ← pathVariableAt cs i
        let text ← slice cs literalStart i
        let segments ← segmentsAt placeholders cs (i + n + 2) (i + n + 2)
        return pushLiteral text (segment :: segments)
      else if b = '}'.toUInt8 then .error (.fault ⟨.unmatchedBrace, i⟩)
      else segmentsAt placeholders cs literalStart (i + 1) := by
  rw [segmentsAt]
  split
  · rename_i h'
    cases h.symm.trans h'
  · rename_i h'
    cases h.symm.trans h'
    rfl

theorem segmentsAt_end (h : (bytes cs)[i]? = none) :
    segmentsAt placeholders cs literalStart i =
      (slice cs literalStart (width cs)).map fun text => pushLiteral text [] := by
  rw [segmentsAt]
  split
  · rfl
  · rename_i h'
    cases h.symm.trans h'

end

theorem segmentsAt_of_isLiteral {placeholders : Bool} {c : Char} {front rest : List Char}
    {literalStart : Nat} (hc : IsLiteral placeholders c rest) :
    segmentsAt placeholders (front ++ c :: rest) literalStart (width front) =
      segmentsAt placeholders (front ++ c :: rest) literalStart (width front + c.utf8Size) := by
  suffices hsteps : ∀ n ≤ c.utf8Size,
      segmentsAt placeholders (front ++ c :: rest) literalStart (width front) =
        segmentsAt placeholders (front ++ c :: rest) literalStart (width front + n) from
    hsteps _ (Nat.le_refl _)
  intro n hn
  induction n with
  | zero => rfl
  | succ n ih =>
      obtain ⟨hopen, hclose, hdollar⟩ := hc
      have hlength : n < (bytes (c :: rest)).length := by
        rw [length_bytes, width_cons]
        omega
      obtain ⟨b, hb⟩ : ∃ b, (bytes (c :: rest))[n]? = some b :=
        ⟨_, List.getElem?_eq_getElem hlength⟩
      rw [ih (by omega), segmentsAt_of_some ((getElem?_bytes_append front _ n).trans hb), if_neg,
        if_neg, if_neg, Nat.add_assoc]
      · rintro rfl
        exact hclose (eq_of_getElem?_bytes rfl hn hb)
      · rintro rfl
        exact hopen (eq_of_getElem?_bytes rfl hn hb)
      · rintro ⟨hplaceholders, rfl, hnext⟩
        obtain rfl : c = '$' := eq_of_getElem?_bytes rfl hn hb
        obtain rfl : n = 0 := Nat.lt_one_iff.1 hn
        rw [Nat.add_zero, getElem?_bytes_append front _ 1] at hnext
        have hrest := (getElem?_bytes_append ['$'] rest 0).symm.trans hnext
        exact hdollar ⟨hplaceholders, rfl, head?_eq_of_getElem?_bytes rfl hrest⟩

theorem pushLiteral_eq_foldr {segments : List Segment} (text : List Char)
    (h : ∀ piece rests, segments ≠ .literal piece :: rests) :
    pushLiteral text segments = text.foldr consLiteral segments := by
  induction text with
  | nil => rfl
  | cons c text ih =>
      rw [List.foldr_cons, ← ih]
      cases text with
      | nil =>
          change _ = consLiteral c segments
          rw [consLiteral]
          · rfl
          · exact h
      | cons d text => rfl

theorem pushLiteral_token {segment : Segment} (pending : List Char)
    (hsegment : ∀ text, segment ≠ .literal text) (rests : Except Fault (List Segment)) :
    (rests.mapError Halt.fault >>= fun segments =>
        .ok (pushLiteral pending (segment :: segments))) =
      ((rests.map (segment :: ·)).map fun segments =>
        pending.foldr consLiteral segments).mapError .fault := by
  cases rests with
  | error fault => rfl
  | ok segments =>
      have hpush : pushLiteral pending (segment :: segments) =
          pending.foldr consLiteral (segment :: segments) := by
        apply pushLiteral_eq_foldr
        rintro text rests heq
        exact hsegment text (List.cons.inj heq).1
      rw [mapError_ok, ok_bind, hpush]
      rfl

/-- Whether the reader of bytes does at the end of the front what the scanner does.  The
literal text that it has gone through without a segment ends there too. -/
def Agrees (placeholders : Bool) (front rest : List Char) : Prop :=
  ∀ done pending, front = done ++ pending →
    segmentsAt placeholders (front ++ rest) (width done) (width front) =
      ((segmentsFrom placeholders (width front) rest).map fun segments =>
        pending.foldr consLiteral segments).mapError .fault

section

variable {placeholders : Bool} {front body rest : List Char}

theorem slice_pending (done pending rest : List Char) :
    slice (done ++ pending ++ rest) (width done) (width (done ++ pending)) = .ok pending := by
  rw [width_append, List.append_assoc]
  exact slice_append done pending rest

theorem Agrees.segmentsAt_eq {token : List Char} (h : Agrees placeholders (front ++ token) rest) :
    segmentsAt placeholders (front ++ (token ++ rest)) (width front + width token)
        (width front + width token) =
      (segmentsFrom placeholders (width front + width token) rest).mapError .fault := by
  have hrest := h (front ++ token) [] (List.append_nil _).symm
  rw [List.append_assoc, width_append] at hrest
  rw [hrest]
  cases segmentsFrom placeholders (width front + width token) rest <;> rfl

theorem Agrees.push_token {done pending token : List Char} {segment : Segment}
    (hsegment : ∀ text, segment ≠ .literal text)
    (h : Agrees placeholders (done ++ pending ++ token) rest) :
    (do
      let text ← slice (done ++ pending ++ (token ++ rest)) (width done) (width (done ++ pending))
      let segments ← segmentsAt placeholders (done ++ pending ++ (token ++ rest))
        (width (done ++ pending) + width token) (width (done ++ pending) + width token)
      return pushLiteral text (segment :: segments)) =
      (((segmentsFrom placeholders (width (done ++ pending) + width token) rest).map
        (segment :: ·)).map fun segments =>
          pending.foldr consLiteral segments).mapError .fault := by
  rw [slice_pending, ok_bind, h.segmentsAt_eq]
  exact pushLiteral_token pending hsegment _

theorem Agrees.nil : Agrees placeholders front [] := by
  rintro done pending rfl
  have hlength : (bytes (done ++ pending ++ [])).length = width (done ++ pending) := by
    rw [List.append_nil, length_bytes]
  have hend : (bytes (done ++ pending ++ []))[width (done ++ pending)]? = none :=
    List.getElem?_eq_none (Nat.le_of_eq hlength)
  have hpending := slice_pending done pending []
  have hwidth : width (done ++ pending ++ []) = width (done ++ pending) := by
    rw [List.append_nil]
  rw [segmentsAt_end hend, hwidth, hpending, segmentsFrom]
  exact congrArg Except.ok (pushLiteral_eq_foldr pending (by simp))

theorem Agrees.literal {c : Char} (hc : IsLiteral placeholders c rest)
    (h : Agrees placeholders (front ++ [c]) rest) : Agrees placeholders front (c :: rest) := by
  intro done pending hfront
  have hrest := h done (pending ++ [c]) (by rw [hfront, List.append_assoc])
  rw [segmentsAt_of_isLiteral hc, segmentsFrom_cons_of_isLiteral hc, map_map]
  simpa using hrest

theorem Agrees.close : Agrees placeholders front ('}' :: rest) := by
  intro done pending _
  rw [segmentsAt_of_some (getElem?_bytes_width rfl front rest), segmentsFrom,
    if_neg (by simp +decide), if_neg (by decide), if_pos rfl]
  rfl

theorem segmentsAt_open (literalStart : Nat) :
    segmentsAt placeholders (front ++ '{' :: rest) literalStart (width front) = do
      let (n, segment) ← pathVariableAt (front ++ '{' :: rest) (width front)
      let text ← slice (front ++ '{' :: rest) literalStart (width front)
      let segments ← segmentsAt placeholders (front ++ '{' :: rest) (width front + n + 2)
        (width front + n + 2)
      return pushLiteral text (segment :: segments) := by
  rw [segmentsAt_of_some (getElem?_bytes_width rfl front rest), if_neg (by simp +decide),
    if_pos rfl]

theorem segmentsAt_placeholder (literalStart : Nat) :
    segmentsAt true (front ++ '$' :: '{' :: rest) literalStart (width front) = do
      let (n, segment) ← placeholderAt (front ++ '$' :: '{' :: rest) (width front)
      let text ← slice (front ++ '$' :: '{' :: rest) literalStart (width front)
      let segments ← segmentsAt true (front ++ '$' :: '{' :: rest) (width front + n + 3)
        (width front + n + 3)
      return pushLiteral text (segment :: segments) := by
  have hnext : (bytes (front ++ '$' :: '{' :: rest))[width front + 1]? = some '{'.toUInt8 := by
    rw [getElem?_bytes_append]
    exact getElem?_bytes_width rfl ['$'] rest
  rw [segmentsAt_of_some (getElem?_bytes_width rfl front _), if_pos ⟨rfl, rfl, hnext⟩]

theorem Agrees.open_of_not_mem (h : '}' ∉ rest) : Agrees placeholders front ('{' :: rest) := by
  intro done pending _
  rw [segmentsAt_open, pathVariableAt_of_not_mem h, segmentsFrom_open_of_not_mem h]
  rfl

theorem Agrees.pathVariable (hbody : '}' ∉ body)
    (h : Agrees placeholders (front ++ '{' :: (body ++ ['}'])) rest) :
    Agrees placeholders front ('{' :: (body ++ '}' :: rest)) := by
  rintro done pending rfl
  rw [segmentsAt_open, pathVariableAt_append hbody, segmentsFrom_open hbody]
  cases hread : Template.pathVariable (width (done ++ pending)) body with
  | error fault => rfl
  | ok segment =>
      obtain ⟨-, -, rfl⟩ := pathVariable_eq_ok_iff.1 hread
      have htext : '{' :: (body ++ '}' :: rest) = '{' :: (body ++ ['}']) ++ rest := by simp
      have hwidth : width (done ++ pending) + width body + 2 =
          width (done ++ pending) + width ('{' :: (body ++ ['}'])) := by
        rw [width_pathVariable, width_nil, Nat.add_zero, Nat.add_assoc]
      rw [mapError_ok, Except.map, ok_bind]
      dsimp only
      rw [htext, hwidth]
      exact h.push_token (by simp)

theorem Agrees.placeholder_of_not_mem (h : '}' ∉ rest) :
    Agrees true front ('$' :: '{' :: rest) := by
  intro done pending _
  rw [segmentsAt_placeholder, placeholderAt_of_not_mem h, segmentsFrom_placeholder_of_not_mem h]
  rfl

theorem Agrees.placeholder (hbody : '}' ∉ body)
    (h : Agrees true (front ++ '$' :: '{' :: (body ++ ['}'])) rest) :
    Agrees true front ('$' :: '{' :: (body ++ '}' :: rest)) := by
  rintro done pending rfl
  rw [segmentsAt_placeholder, placeholderAt_append hbody, segmentsFrom_placeholder hbody]
  cases hread : Template.placeholder (width (done ++ pending)) body with
  | error fault => rfl
  | ok segment =>
      obtain ⟨-, -, rfl⟩ := placeholder_eq_ok_iff.1 hread
      have htext : '$' :: '{' :: (body ++ '}' :: rest) =
          '$' :: '{' :: (body ++ ['}']) ++ rest := by simp
      have hwidth : width (done ++ pending) + width body + 3 =
          width (done ++ pending) + width ('$' :: '{' :: (body ++ ['}'])) := by
        rw [width_placeholder, width_nil, Nat.add_zero, Nat.add_assoc]
      rw [mapError_ok, Except.map, ok_bind]
      dsimp only
      rw [htext, hwidth]
      exact h.push_token (by simp)

end

/-- The reader of bytes does what the scanner does wherever it meets a character. -/
theorem agrees (placeholders : Bool) (front rest : List Char) :
    Agrees placeholders front rest := by
  induction hn : rest.length using Nat.strongRecOn generalizing front rest with
  | ind n ih =>
      subst hn
      cases rest with
      | nil => exact .nil
      | cons c rest =>
          rcases first_cases placeholders c rest with hc | rfl | rfl | ⟨rfl, rfl, rest, rfl⟩
          · exact .literal hc (ih rest.length (by simp) _ rest rfl)
          · exact .close
          · by_cases hclose : '}' ∈ rest
            · obtain ⟨body, rest, rfl, hbody⟩ := List.eq_append_cons_of_mem hclose
              exact .pathVariable hbody (ih rest.length (by simp; omega) _ rest rfl)
            · exact .open_of_not_mem hclose
          · by_cases hclose : '}' ∈ rest
            · obtain ⟨body, rest, rfl, hbody⟩ := List.eq_append_cons_of_mem hclose
              exact .placeholder hbody (ih rest.length (by simp; omega) _ rest rfl)
            · exact .placeholder_of_not_mem hclose

theorem segmentsOfBytes_eq (placeholders : Bool) (template : String) :
    segmentsOfBytes placeholders template =
      (segmentsFrom placeholders 0 template.toList).mapError .fault := by
  have h := agrees placeholders [] template.toList [] [] rfl
  rw [List.nil_append, width_nil] at h
  rw [segmentsOfBytes, h]
  cases segmentsFrom placeholders 0 template.toList <;> rfl

theorem segmentsOfBytes_ne_cutCharacter (placeholders : Bool) (template : String) :
    segmentsOfBytes placeholders template ≠ .error .cutCharacter := by
  rw [segmentsOfBytes_eq]
  cases segmentsFrom placeholders 0 template.toList with
  | error fault =>
      rw [mapError_error]
      simp
  | ok segments =>
      rw [mapError_ok]
      simp

end RouteTable.Template
