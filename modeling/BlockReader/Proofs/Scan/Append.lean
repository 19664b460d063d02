import BlockReader.Proofs.Scan
set_option autoImplicit false

namespace BlockReader

variable {σ : Type} (transport : Transport σ) (options : Options) (patience : Patience)

/-- The visit to the first slot either adds to what the scan of the other slots returns, or ends the
scan, whatever the other slots are. -/
theorem scan_cons_cases (slot : Json) (node : σ) :
    let first := visitTo transport options patience slot node
    (∃ kept : List Summary, ∀ rest, scan transport options patience (slot :: rest) node =
      let others := scan transport options patience rest first.fetched.node
      ⟨others.result.map (kept ++ ·), others.node, first.trace patience ++ others.events⟩) ∨
    ∃ failure, first.EndsWith patience failure ∧ ∀ rest,
      scan transport options patience (slot :: rest) node =
        ⟨.error failure, first.fetched.node, first.trace patience⟩ := by
  intro first
  rcases visitTo_settled transport options patience slot node with
    ⟨summary, describes⟩ | ⟨leftOut, told⟩ | ⟨failure, ends⟩
  · refine .inl ⟨[summary], fun rest => ?_⟩
    exact scan_of_describes transport options patience slot rest node summary describes
  · refine .inl ⟨[], fun rest => ?_⟩
    rw [scan_of_leftOut transport options patience slot rest node leftOut told]
    dsimp only
    cases (scan transport options patience rest first.fetched.node).result <;> rfl
  · refine .inr ⟨failure, ends, fun rest => ?_⟩
    exact scan_of_endsWith transport options patience slot rest node failure ends

/-- Behind a scan that returns, the scan of further slots goes on in the state that the first has
left. -/
theorem scan_append_of_ok (front rest : List Json) (node : σ) (summaries : List Summary)
    (returned : (scan transport options patience front node).result = .ok summaries) :
    scan transport options patience (front ++ rest) node =
      let first := scan transport options patience front node
      let second := scan transport options patience rest first.node
      ⟨second.result.map (summaries ++ ·), second.node, first.events ++ second.events⟩ := by
  induction front generalizing node summaries with
  | nil =>
    cases returned
    have same (result : Except Failure (List Summary)) : result.map ([] ++ ·) = result := by
      cases result <;> rfl
    dsimp only [scan, Task.pure_apply]
    rw [same]
    rfl
  | cons slot front ih =>
    rw [List.cons_append]
    rcases scan_cons_cases transport options patience slot node with
      ⟨kept, goesOn⟩ | ⟨failure, _, stops⟩
    · rw [goesOn] at returned
      dsimp only at returned
      cases later : (scan transport options patience front
          (visitTo transport options patience slot node).fetched.node).result with
      | error failure =>
        rw [later] at returned
        cases returned
      | ok others =>
        rw [later] at returned
        cases returned
        rw [goesOn, goesOn, ih _ others later]
        dsimp only
        rw [List.append_assoc]
        congr 1
        cases (scan transport options patience rest _).result with
        | error failure => rfl
        | ok last => exact congrArg Except.ok (List.append_assoc kept others last).symm
    · rw [stops] at returned
      cases returned

/-- A scan that fails does not get to further slots. -/
theorem scan_append_of_error (front rest : List Json) (node : σ) (failure : Failure)
    (failed : (scan transport options patience front node).result = .error failure) :
    scan transport options patience (front ++ rest) node =
      scan transport options patience front node := by
  induction front generalizing node with
  | nil => cases failed
  | cons slot front ih =>
    rw [List.cons_append]
    rcases scan_cons_cases transport options patience slot node with
      ⟨kept, goesOn⟩ | ⟨other, _, stops⟩
    · rw [goesOn] at failed
      dsimp only at failed
      cases later : (scan transport options patience front
          (visitTo transport options patience slot node).fetched.node).result with
      | error same => rw [goesOn, goesOn, ih _ (by rw [later] at failed ⊢; exact failed)]
      | ok others =>
        rw [later] at failed
        cases failed
    · rw [stops, stops]

/-- A scan of one list behind another, whatever the node is and however long it is waited for. If
the scan of the first list returns, the whole ends as the scan of the second does from there, with
both lists of summaries; if it fails, so does the whole, and the second list has no part in it. What
is seen of the whole, records and waits included, is what is seen of the one and then of the
other. -/
theorem scan_composes (front rest : List Json) (node : σ) :
    let first := scan transport options patience front node
    let second := scan transport options patience rest first.node
    let whole := scan transport options patience (front ++ rest) node
    (∀ summaries, first.result = .ok summaries →
      (∀ others, second.result = .ok others → whole.result = .ok (summaries ++ others)) ∧
      (∀ failure, second.result = .error failure → whole.result = .error failure) ∧
      whole.events = first.events ++ second.events ∧ whole.node = second.node) ∧
    ∀ failure, first.result = .error failure →
      whole.result = .error failure ∧ whole.events = first.events ∧ whole.node = first.node := by
  intro first second whole
  constructor
  · intro summaries returned
    have run : whole =
        ⟨second.result.map (summaries ++ ·), second.node, first.events ++ second.events⟩ :=
      scan_append_of_ok transport options patience front rest node summaries returned
    rw [run]
    refine ⟨?_, ?_, rfl, rfl⟩
    · intro others ended
      rw [ended]
      rfl
    · intro failure ended
      rw [ended]
      rfl
  · intro failure failed
    have run : whole = first :=
      scan_append_of_error transport options patience front rest node failure failed
    rw [run]
    exact ⟨failed, rfl, rfl⟩

/-- A block and a slot that is left out, then a failure: the slot behind it is not asked for. -/
theorem scan_composes_broken_off :
    let spelling := Json.text Digest.zeroHash.text
    let raw : Json.Members :=
      [("blockhash", spelling), ("previousBlockhash", spelling), ("parentSlot", .int 0)]
    let broken : Failure := .transport [.text "unreachable"]
    let script : Script :=
      ⟨[.ok (.object raw), .ok .null, .error broken, .ok (.object raw)], 0⟩
    let scanned (slots : List Json) :=
      scan (Script.transport false) {} ⟨.int 0, .int 3⟩ slots
    let first := scanned [.int 1, .int 2] script
    let second := scanned [.int 3, .int 4] first.node
    let whole := scanned [.int 1, .int 2, .int 3, .int 4] script
    (∃ summary, first.result = .ok [summary] ∧ summary.slot = .int 1) ∧
      second.result = .error broken ∧ whole.result = .error broken ∧
      whole.events = first.events ++ second.events ∧ whole.node = ⟨[.ok (.object raw)], 0⟩ ∧
      (scanned [.int 1, .int 2, .int 3, .int 4, .int 5] script).events = whole.events := by
  intro spelling raw broken script scanned first second whole
  let block : Block :=
    { blockhash := Digest.zeroHash
      previousBlockhash := Digest.zeroHash
      parentSlot := .int 0
      details := .full (.array []) }
  have decoded : Block.decode (.int 1) (.object raw) (.text "full") = .ok block := by
    rw [Block.decode_object_eq_ok_iff]
    exact ⟨rfl, rfl, ⟨.int 0, 0, rfl, rfl, rfl⟩, rfl, rfl, rfl, rfl⟩
  have returned : (visitTo (Script.transport false) {} ⟨.int 0, .int 3⟩ (.int 1)
      script).fetched.result = .ok block :=
    (congrArg (fun visit => visit.fetched.result)
      (visitTo_without_retries false (.int 1) {} ⟨.json, none, none, none, none⟩ rfl (.int 3)
        script)).trans decoded
  let summary : Summary :=
    ⟨.int 1, block.blockhash.text, .int 0, block.parentPruned, .null, .null, 0, 0⟩
  have described : summary.Describes (.int 1) block :=
    ⟨rfl, rfl, rfl, rfl, rfl, rfl, .full [], .falsy .null rfl⟩
  have run := scan_of_describes (Script.transport false) {} ⟨.int 0, .int 3⟩ (.int 1) [.int 2]
    script summary ⟨block, returned, described⟩
  have kept : first.result = .ok [summary] := congrArg Outcome.result run
  have reached : first.node = script.after 2 := congrArg Outcome.node run
  have goneOn : second = scanned [.int 3, .int 4] (script.after 2) :=
    congrArg (scanned [.int 3, .int 4]) reached
  have failed : second.result = .error broken := by
    rw [goneOn]
    rfl
  have unused : second.node = ⟨[.ok (.object raw)], 0⟩ := by
    rw [goneOn]
    rfl
  obtain ⟨goesOn, _⟩ := scan_composes (Script.transport false) {} ⟨.int 0, .int 3⟩
    [.int 1, .int 2] [.int 3, .int 4] script
  obtain ⟨_, fails, seen, left⟩ := goesOn _ kept
  have ended : whole.result = .error broken := fails broken failed
  obtain ⟨_, stops⟩ := scan_composes (Script.transport false) {} ⟨.int 0, .int 3⟩
    [.int 1, .int 2, .int 3, .int 4] [.int 5] script
  exact ⟨⟨summary, kept, rfl⟩, failed, ended, seen, left.trans unused,
    (stops broken ended).2.1⟩

end BlockReader
