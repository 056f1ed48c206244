import Mathlib.Data.UInt
import Xencons.Lib.TokensAt

/-!
# Taking a string apart (util.h)

`__strtok_r` and `__wcstok_r` are one function over two kinds of characters. It writes a NUL behind
each token that it returns, and remembers where it stopped: one behind that NUL, or on the NUL of
the string.

* `tokR` -- the function, over a memory that ends with the NUL of the string, so that a read behind
  it is `none`; `strtokR`, `wcstokR`;
* `tokR_none`, `tokR_last`, `tokR_more` -- what one call does, by what it finds;
* `Yields` -- what the calls are to come to; **`strtok_yields`**.
-/

namespace Xencons.Util

open Lib

variable {α : Type} [DecidableEq α] [Zero α]

/-! ## 1. The function -/

/-- `strchr(Delimiter, c) != NULL`, which finds the NUL of the delimiters as well. -/
def strchr (delimiter : List α) (c : α) : Bool := delimiter.contains c || c = 0

/-- `while (go(*p)) p++`, with what the memory has from `p` on. -/
def advance (go : α → Bool) : List α → Nat → Option Nat
  | [], _ => none
  | c :: rest, p => if go c then advance go rest (p + 1) else some p

/-- The token, `*Context` and the memory; pointers are places in the memory, or `NULL`. -/
def tokR (delimiter : List α) (buffer context : Option Nat) (m : List α) :
    Option (Option Nat × Option Nat × List α) :=
  -- if (Buffer != NULL) *Context = Buffer
  match buffer.or context with
  | none => some (none, none, m)
  | some start => do
    let token ← advance (fun c => c ≠ 0 && strchr delimiter c) (m.drop start) start
    if (← m[token]?) = 0 then some (none, some start, m)
    else
      let e ← advance (fun c => c ≠ 0 && !strchr delimiter c) (m.drop (token + 1)) (token + 1)
      if (← m[e]?) ≠ 0 then some (some token, some (e + 1), m.set e 0)
      else some (some token, some e, m)

/-- `__strtok_r` -/
def strtokR : List UInt8 → Option Nat → Option Nat → List UInt8 →
    Option (Option Nat × Option Nat × List UInt8) := tokR

/-- `__wcstok_r` -/
def wcstokR : List UInt16 → Option Nat → Option Nat → List UInt16 →
    Option (Option Nat × Option Nat × List UInt16) := tokR

/-! ## 2. One call -/

section Call

variable {delimiter d t pre post : List α}

omit [DecidableEq α] [Zero α] in
theorem advance_append {go : α → Bool} {l : List α} {c : α} (hl : ∀ c ∈ l, go c = true)
    (hc : go c = false) (rest : List α) (p : Nat) :
    advance go (l ++ c :: rest) p = some (p + l.length) := by
  induction l generalizing p with
  | nil => exact if_neg (by rw [hc]; exact Bool.false_ne_true)
  | cons c l ih =>
      rw [List.cons_append, advance, if_pos (hl c List.mem_cons_self),
        ih fun c hc => hl c (List.mem_cons_of_mem _ hc), List.length_cons, Nat.add_assoc,
        Nat.add_comm 1]

theorem go_seps (hd : ∀ c ∈ d, delimiter.contains c = true) (h0 : 0 ∉ d) :
    ∀ c ∈ d, (decide (c ≠ 0) && strchr delimiter c) = true := fun c hc => by
  have hne : c ≠ 0 := ne_of_mem_of_not_mem hc h0
  rw [strchr, hd c hc, decide_eq_true hne, Bool.true_or]
  rfl

theorem go_run (ht : ∀ c ∈ t, delimiter.contains c = false) (h0 : 0 ∉ t) :
    ∀ c ∈ t, (decide (c ≠ 0) && !strchr delimiter c) = true := fun c hc => by
  have hne : c ≠ 0 := ne_of_mem_of_not_mem hc h0
  rw [strchr, ht c hc, decide_eq_true hne, decide_eq_false hne]
  rfl

omit [DecidableEq α] [Zero α] in
theorem getElem?_middle (l : List α) (c : α) (rest : List α) :
    (l ++ c :: rest)[l.length]? = some c := by
  rw [List.getElem?_append_right (Nat.le_refl _), Nat.sub_self]
  rfl

/-- **Nothing but separators is left**: it stays where it is. -/
theorem tokR_none (hd : ∀ c ∈ d, delimiter.contains c = true) (h0 : 0 ∉ d) :
    tokR delimiter none (some pre.length) (pre ++ (d ++ 0 :: post)) =
      some (none, some pre.length, pre ++ (d ++ 0 :: post)) := by
  have hskip := advance_append (go_seps hd h0) (c := 0) (by simp) post pre.length
  have hnul : (pre ++ (d ++ 0 :: post))[pre.length + d.length]? = some 0 := by
    rw [← List.append_assoc, ← List.length_append]
    exact getElem?_middle _ _ _
  simp only [tokR, Option.none_or, List.drop_left, hskip, Option.bind_eq_bind, Option.bind_some,
    hnul, if_true]

/-- It goes to the end of a token. -/
theorem tokR_token (hd : ∀ c ∈ d, delimiter.contains c = true) (h0 : 0 ∉ d) (hne : t ≠ [])
    (ht : ∀ c ∈ t, delimiter.contains c = false) (h0' : 0 ∉ t) {c : α}
    (hc : strchr delimiter c = true) :
    tokR delimiter none (some pre.length) (pre ++ (d ++ (t ++ c :: post))) =
      if c ≠ 0 then
        some (some (pre.length + d.length), some (pre.length + d.length + t.length + 1),
          pre ++ (d ++ (t ++ 0 :: post)))
      else
        some (some (pre.length + d.length), some (pre.length + d.length + t.length),
          pre ++ (d ++ (t ++ c :: post))) := by
  obtain ⟨x, t, rfl⟩ := List.exists_cons_of_ne_nil hne
  have hx : (decide (x ≠ 0) && strchr delimiter x) = false := by
    have := go_run ht h0' x List.mem_cons_self
    simp only [Bool.and_eq_true, Bool.not_eq_true'] at this
    rw [this.2, Bool.and_false]
  have hstop : (decide (c ≠ 0) && !strchr delimiter c) = false := by rw [hc, Bool.not_true,
    Bool.and_false]
  have hskip := advance_append (go_seps hd h0) hx (t ++ c :: post) pre.length
  have hend := advance_append (fun y hy => go_run ht h0' y (List.mem_cons_of_mem _ hy)) hstop post
    (pre.length + d.length + 1)
  have hfirst : (pre ++ (d ++ (x :: t ++ c :: post)))[pre.length + d.length]? = some x := by
    rw [← List.append_assoc, ← List.length_append]
    exact getElem?_middle _ _ _
  have hdrop : (pre ++ (d ++ (x :: t ++ c :: post))).drop (pre.length + d.length + 1) =
      t ++ c :: post := by
    have : pre ++ (d ++ (x :: t ++ c :: post)) = (pre ++ d ++ [x]) ++ (t ++ c :: post) := by simp
    rw [this]
    exact List.drop_left' (by simp only [List.length_append, List.length_singleton])
  have hmiddle (y : α) : pre ++ (d ++ (x :: t ++ y :: post)) = (pre ++ d ++ x :: t) ++ y :: post :=
    by simp
  have hlength : (pre ++ d ++ x :: t).length = pre.length + d.length + 1 + t.length := by
    simp only [List.length_append, List.length_cons]
    omega
  have hlast : (pre ++ (d ++ (x :: t ++ c :: post)))[pre.length + d.length + 1 + t.length]? =
      some c := by
    rw [hmiddle, ← hlength]
    exact getElem?_middle _ _ _
  have hset : (pre ++ (d ++ (x :: t ++ c :: post))).set (pre.length + d.length + 1 + t.length) 0 =
      pre ++ (d ++ (x :: t ++ 0 :: post)) := by
    rw [hmiddle, hmiddle, ← hlength, List.set_append_right _ _ (Nat.le_refl _), Nat.sub_self]
    rfl
  have hx0 : x ≠ 0 := ne_of_mem_of_not_mem List.mem_cons_self h0'
  have hplace : pre.length + d.length + (x :: t).length = pre.length + d.length + 1 + t.length := by
    rw [List.length_cons]
    omega
  simp only [tokR, Option.none_or, List.drop_left, List.cons_append] at *
  simp only [hskip, Option.bind_eq_bind, Option.bind_some, hfirst, if_neg hx0, hdrop, hend, hlast,
    hset, hplace]

/-- **A token up to the NUL**: there it stops. -/
theorem tokR_last (hd : ∀ c ∈ d, delimiter.contains c = true) (h0 : 0 ∉ d) (hne : t ≠ [])
    (ht : ∀ c ∈ t, delimiter.contains c = false) (h0' : 0 ∉ t) :
    tokR delimiter none (some pre.length) (pre ++ (d ++ (t ++ 0 :: post))) =
      some (some (pre.length + d.length), some (pre.length + d.length + t.length),
        pre ++ (d ++ (t ++ 0 :: post))) := by
  rw [tokR_token hd h0 hne ht h0' (by simp [strchr]), if_neg (not_not_intro rfl)]

/-- **A token up to a separator**: that becomes a NUL, and it stops behind it. -/
theorem tokR_more (hd : ∀ c ∈ d, delimiter.contains c = true) (h0 : 0 ∉ d) (hne : t ≠ [])
    (ht : ∀ c ∈ t, delimiter.contains c = false) (h0' : 0 ∉ t) {x : α}
    (hx : delimiter.contains x = true) (hx0 : x ≠ 0) :
    tokR delimiter none (some pre.length) (pre ++ (d ++ (t ++ x :: post))) =
      some (some (pre.length + d.length), some (pre.length + d.length + t.length + 1),
        pre ++ (d ++ (t ++ 0 :: post))) := by
  rw [tokR_token hd h0 hne ht h0' (by rw [strchr, hx]; rfl), if_pos hx0]

/-- **One call takes one token**, and the next one goes on with what is left. -/
theorem tokR_nextToken (delimiter s : List α) (h0 : 0 ∉ s) (pre post : List α) :
    nextToken (delimiter.contains ·) s = none ∧
        tokR delimiter none (some pre.length) (pre ++ (s ++ 0 :: post)) =
          some (none, some pre.length, pre ++ (s ++ 0 :: post)) ∨
      ∃ t rest k pre', nextToken (delimiter.contains ·) s = some (t, rest) ∧ 0 ∉ t ∧ 0 ∉ rest ∧
        tokR delimiter none (some pre.length) (pre ++ (s ++ 0 :: post)) =
          some (some k, some pre'.length, pre' ++ (rest ++ 0 :: post)) ∧
        ∃ behind, (pre' ++ (rest ++ 0 :: post)).drop k = t ++ 0 :: behind := by
  induction s using tokens_induction (p := (delimiter.contains ·)) with
  | none d hd => exact .inl ⟨nextToken_none hd, tokR_none hd h0⟩
  | last d t hd hne ht =>
      obtain ⟨h0d, h0t⟩ := not_or.mp (mt List.mem_append.mpr h0)
      have hnext := nextToken_run (p := (delimiter.contains ·)) hd hne ht (b := []) nofun
      rw [List.append_nil] at hnext
      refine .inr ⟨t, [], pre.length + d.length, pre ++ (d ++ t), hnext, h0t, List.not_mem_nil,
        ?_, post, ?_⟩
      · rw [List.append_assoc, tokR_last hd h0d hne ht h0t]
        simp [Nat.add_assoc]
      · rw [← List.length_append, List.nil_append, ← List.append_assoc, List.append_assoc,
          List.drop_left]
  | more d t x s hd hne ht hx _ =>
      obtain ⟨h0dt, h0s⟩ := not_or.mp (mt List.mem_append.mpr h0)
      obtain ⟨h0d, h0t⟩ := not_or.mp (mt List.mem_append.mpr h0dt)
      obtain ⟨hx0, h0s⟩ := not_or.mp (mt List.mem_cons.mpr h0s)
      have hnext := nextToken_run (p := (delimiter.contains ·)) hd hne ht (b := x :: s)
        fun c hc => Option.some.inj hc ▸ hx
      rw [← List.append_assoc] at hnext
      refine .inr ⟨t, s, pre.length + d.length, pre ++ (d ++ (t ++ [0])), hnext, h0t, h0s, ?_,
        s ++ 0 :: post, ?_⟩
      · rw [List.append_assoc, List.append_assoc, List.cons_append,
          tokR_more hd h0d hne ht h0t hx (Ne.symm hx0)]
        simp [Nat.add_assoc]
      · have hmemory : pre ++ (d ++ (t ++ [0])) ++ (s ++ 0 :: post) =
            (pre ++ d) ++ (t ++ 0 :: (s ++ 0 :: post)) := by simp
        rw [← List.length_append, hmemory, List.drop_left]

end Call

/-! ## 3. All the calls -/

/-- `__strtok_r`, or `__wcstok_r`, with its delimiters: the buffer, the context, the memory. -/
abbrev Tok (α : Type) :=
  Option Nat → Option Nat → List α → Option (Option Nat × Option Nat × List α)

/-- So many calls with `NULL`, and what they return. -/
def laterCalls (tok : Tok α) : Nat → Option Nat → List α → Option (List (Option Nat) × List α)
  | 0, _, m => some ([], m)
  | n + 1, context, m => do
    let (token, context, m) ← tok none context m
    let (tokens, m) ← laterCalls tok n context m
    some (token :: tokens, m)

/-- So many calls, the first of them with the buffer; nobody has written the context before. -/
def calls (tok : Tok α) (buffer : Nat) (context : Option Nat) :
    Nat → List α → Option (List (Option Nat) × List α)
  | 0, m => some ([], m)
  | n + 1, m => do
    let (token, context, m) ← tok (some buffer) context m
    let (tokens, m) ← laterCalls tok n context m
    some (token :: tokens, m)

/-- **What the calls come to**, however many there are: the places of the runs from the left, and
    then `NULL`; and behind each run that has been returned there is a NUL. The memory ends with the
    NUL of the string. -/
def Yields (tok : List α → Tok α) (delimiter s : List α) : Prop :=
  ∃ rs : List (Nat × List α), (rs.Pairwise fun r r' => r.1 < r'.1) ∧
    (∀ k t, (k, t) ∈ rs ↔ TokenAt (delimiter.contains ·) s k t) ∧
    ∀ context n, ∃ m, calls (tok delimiter) 0 context n (s ++ [0]) =
        some ((List.range n).map fun i => (rs[i]?).map Prod.fst, m) ∧
      m.length = s.length + 1 ∧ ∀ r ∈ rs.take n, r.2 ++ [0] <+: m.drop r.1

section Calls

variable {delimiter : List α}

omit [DecidableEq α] [Zero α] in
theorem laterCalls_none {tok : Tok α} {context : Option Nat} {m : List α}
    (h : tok none context m = some (none, context, m)) (n : Nat) :
    laterCalls tok n context m = some (List.replicate n none, m) := by
  induction n with
  | zero => rfl
  | succ n ih =>
      simp only [laterCalls, h, Option.bind_eq_bind, Option.bind_some, ih]
      rfl

omit [DecidableEq α] [Zero α] in
theorem map_nothing (n : Nat) :
    ((List.range n).map fun i => (([] : List (Nat × List α))[i]?).map Prod.fst) =
      List.replicate n none := by
  refine List.eq_replicate_iff.mpr ⟨by simp, fun x hx => ?_⟩
  obtain ⟨i, -, rfl⟩ := List.mem_map.mp hx
  rfl

omit [DecidableEq α] [Zero α] in
theorem map_range_succ (r : Nat × List α) (rs : List (Nat × List α)) (n : Nat) :
    ((List.range (n + 1)).map fun i => ((r :: rs)[i]?).map Prod.fst) =
      some r.1 :: (List.range n).map fun i => (rs[i]?).map Prod.fst := by
  rw [List.range_succ_eq_map, List.map_cons, List.map_map]
  rfl

omit [DecidableEq α] in
/-- A token with its NUL is where it starts. -/
theorem prefix_drop (pre d t rest : List α) :
    t ++ [0] <+: (pre ++ (d ++ (t ++ 0 :: rest))).drop (pre.length + d.length) := by
  rw [← List.append_assoc, ← List.length_append, List.drop_left]
  exact ⟨rest, (List.append_cons t 0 rest).symm⟩

/-- **The calls, from where one of them has stopped.** -/
theorem laterCalls_string (delimiter u : List α) (h0 : 0 ∉ u) (n : Nat) (pre post : List α) :
    ∃ u', laterCalls (tokR delimiter) n (some pre.length) (pre ++ (u ++ 0 :: post)) =
        some ((List.range n).map fun i =>
          ((tokensFrom (delimiter.contains ·) false pre.length u)[i]?).map Prod.fst,
          pre ++ (u' ++ 0 :: post)) ∧
      u'.length = u.length ∧
      ∀ r ∈ (tokensFrom (delimiter.contains ·) false pre.length u).take n,
        r.2 ++ [0] <+: (pre ++ (u' ++ 0 :: post)).drop r.1 := by
  induction u using tokens_induction (p := (delimiter.contains ·)) generalizing n pre with
  | none d hd =>
      have hat : tokensFrom (delimiter.contains ·) false pre.length d = [] := by
        have := tokensFrom_seps hd pre.length []
        rwa [List.append_nil] at this
      refine ⟨d, ?_, rfl, ?_⟩
      · rw [hat, map_nothing]
        exact laterCalls_none (tokR_none hd h0) n
      · rw [hat, List.take_nil]
        exact nofun
  | last d t hd hne ht =>
      obtain ⟨h0d, h0t⟩ := not_or.mp (mt List.mem_append.mpr h0)
      have hat : tokensFrom (delimiter.contains ·) false pre.length (d ++ t) =
          [(pre.length + d.length, t)] := by
        have := tokensFrom_run (p := (delimiter.contains ·)) hne ht (b := []) nofun
          (pre.length + d.length)
        rw [List.append_nil] at this
        rw [tokensFrom_seps hd, this]
        rfl
      rw [hat]
      refine ⟨d ++ t, ?_, rfl, fun r hr => ?_⟩
      · cases n with
        | zero => rfl
        | succ n =>
            have hplace : pre.length + d.length + t.length = (pre ++ (d ++ t)).length := by
              simp only [List.length_append]
              omega
            have hstop : tokR delimiter none (some (pre ++ (d ++ t)).length)
                ((pre ++ (d ++ t)) ++ ([] ++ 0 :: post)) = _ := tokR_none nofun List.not_mem_nil
            rw [List.nil_append] at hstop
            rw [map_range_succ, map_nothing, List.append_assoc, laterCalls,
              tokR_last hd h0d hne ht h0t]
            simp only [Option.bind_eq_bind, Option.bind_some, hplace]
            rw [show pre ++ (d ++ (t ++ 0 :: post)) = (pre ++ (d ++ t)) ++ 0 :: post by simp,
              laterCalls_none hstop]
            rfl
      · obtain rfl := List.mem_singleton.mp (List.mem_of_mem_take hr)
        rw [List.append_assoc]
        exact prefix_drop pre d t post
  | more d t x s hd hne ht hx ih =>
      obtain ⟨h0dt, h0s⟩ := not_or.mp (mt List.mem_append.mpr h0)
      obtain ⟨h0d, h0t⟩ := not_or.mp (mt List.mem_append.mpr h0dt)
      obtain ⟨hx0, h0s⟩ := not_or.mp (mt List.mem_cons.mpr h0s)
      have hb : ∀ c ∈ (x :: s).head?, delimiter.contains c = true := fun c hc =>
        Option.some.inj hc ▸ hx
      have hplace : pre.length + d.length + t.length + 1 = (pre ++ (d ++ (t ++ [0]))).length := by
        simp only [List.length_append, List.length_singleton]
        omega
      have hat : tokensFrom (delimiter.contains ·) false pre.length (d ++ t ++ x :: s) =
          (pre.length + d.length, t) ::
            tokensFrom (delimiter.contains ·) false (pre ++ (d ++ (t ++ [0]))).length s := by
        rw [List.append_assoc, tokensFrom_seps hd, tokensFrom_run hne ht hb, tokensFrom_sep hx,
          hplace]
      rw [hat]
      cases n with
      | zero => exact ⟨d ++ t ++ x :: s, rfl, rfl, nofun⟩
      | succ n =>
          obtain ⟨s', hcalls, hlength, htexts⟩ := ih h0s n (pre ++ (d ++ (t ++ [0])))
          have hmemory (v : List α) : (pre ++ (d ++ (t ++ [0]))) ++ (v ++ 0 :: post) =
              pre ++ (d ++ (t ++ 0 :: (v ++ 0 :: post))) := by simp
          have hmemory' : pre ++ ((d ++ t ++ 0 :: s') ++ 0 :: post) =
              pre ++ (d ++ (t ++ 0 :: (s' ++ 0 :: post))) := by simp
          rw [hmemory s, hmemory s'] at hcalls
          rw [hmemory s'] at htexts
          refine ⟨d ++ t ++ 0 :: s', ?_, ?_, fun r hr => ?_⟩
          · rw [map_range_succ, hmemory', List.append_assoc, List.append_assoc, List.cons_append,
              laterCalls, tokR_more hd h0d hne ht h0t hx (Ne.symm hx0)]
            simp only [Option.bind_eq_bind, Option.bind_some, hplace]
            rw [hcalls]
            rfl
          · simp only [List.length_append, List.length_cons, hlength]
          · rw [hmemory']
            rcases List.mem_cons.mp hr with rfl | hr
            · exact prefix_drop pre d t _
            · exact htexts r hr

theorem calls_eq (buffer : Nat) (context : Option Nat) (n : Nat) (m : List α) :
    calls (tokR delimiter) buffer context n m = laterCalls (tokR delimiter) n (some buffer) m := by
  cases n <;> rfl

theorem tokR_yields (delimiter s : List α) (h0 : 0 ∉ s) : Yields tokR delimiter s := by
  refine ⟨tokensAt (delimiter.contains ·) s, pairwise_tokensFrom _ _ _,
    fun k t => mem_tokensAt, fun context n => ?_⟩
  obtain ⟨s', hcalls, hlength, htexts⟩ := laterCalls_string delimiter s h0 n [] []
  rw [List.length_nil, List.nil_append, List.nil_append, ← tokensAt] at hcalls
  rw [List.length_nil, List.nil_append, ← tokensAt] at htexts
  refine ⟨s' ++ [0], (calls_eq 0 context n _).trans hcalls, ?_, htexts⟩
  rw [List.length_append, hlength, List.length_singleton]

end Calls

/-- **Both functions take every string apart**, whatever the delimiters are. -/
theorem strtok_yields :
    (∀ delimiter s : List UInt8, 0 ∉ s → Yields strtokR delimiter s) ∧
      ∀ delimiter s : List UInt16, 0 ∉ s → Yields wcstokR delimiter s :=
  ⟨tokR_yields, tokR_yields⟩

/-- Options with two spaces between them, and a path with a backslash at either end. -/
theorem strtok_yields_options :
    Yields strtokR [32] [65, 32, 32, 66] ∧ Yields wcstokR [92] [92, 65, 66, 92] :=
  ⟨strtok_yields.1 [32] [65, 32, 32, 66] (by decide),
    strtok_yields.2 [92] [92, 65, 66, 92] (by decide)⟩

end Xencons.Util
