import InetAddress.Proofs.Network.SolicitedNode
import InetAddress.Proofs.Text.Description
import InetAddress.Proofs.Text.Lines
import InetAddress.Proofs.Text.Quoted

/-!
# What the report leaves behind

For any arguments at all there is one outcome (`Leaves`), and the rules give it to the letter:

```text
no arguments                      2    the usage
the first denotes no address      1    its fault, as an IPv6 address, on one line
otherwise                         0    the header, then the lines of the networks
```

The header asks questions that not every address answers: the flags and the scope of a
multicast address, the solicited-node address of any other, the IPv4 addresses that 6to4 and
mapped addresses carry.  Each is asked behind a test that the address has an answer, so no
line of a header is a fault (`exists_line_of_mem_header`), and `routable` asks for a scope in
the same way.

The lines of the networks come one by one, and a network that gives no answer gives no
line (`Members`).
-/

namespace InetAddress.Report

variable {text cidr program : String} {cidrs lines : List String} {a b : V6} {e : Error}

/-! ## The first argument -/

/-- The address that a text stands for: a MAC address stands for its link-local address, and an IPv6
address for itself. -/
def Denotes (text : String) (a : V6) : Prop :=
  (∃ m, Mac.parse text = .ok m ∧ a = V6.ofMac m) ∨ V6.parse text = .ok a

theorem subject_of_not_mac (h : ∀ m, Mac.parse text ≠ .ok m) : subject text = V6.parse text := by
  unfold subject
  cases hmac : Mac.ofText? text with
  | some m => exact absurd (Mac.parse_eq_ok_iff.mpr hmac) (h m)
  | none => rfl

theorem subject_eq_error_iff :
    subject text = .error e ↔ (∀ a, ¬ Denotes text a) ∧ V6.parse text = .error e := by
  constructor
  · intro h
    have hnone : ∀ a, ¬ Denotes text a := by
      intro a ha
      rw [subject_eq_ok_iff.mpr ha] at h
      cases h
    refine ⟨hnone, ?_⟩
    rwa [subject_of_not_mac fun m hm => hnone _ (.inl ⟨m, hm, rfl⟩)] at h
  · rintro ⟨hnone, hfault⟩
    rwa [subject_of_not_mac fun m hm => hnone _ (.inl ⟨m, hm, rfl⟩)]

/-! ## Lines -/

theorem unlines_append (lines more : List String) :
    unlines (lines ++ more) = unlines lines ++ unlines more := by
  induction lines with
  | nil => exact String.empty_append.symm
  | cons line lines ih => simp only [List.cons_append, unlines, ih, String.append_assoc]

/-- Where no line is a fault, all of them are printed. -/
theorem printed_map_ok (lines : List String) : printed (lines.map .ok) = (lines, none) := by
  induction lines with
  | nil => rfl
  | cons line lines ih => rw [List.map_cons, printed, ih]

/-- A verdict is one of two words. -/
inductive Says : Bool → String → Prop
  | yes : Says true "true"
  | no : Says false "false"

theorem says_iff {yes : Bool} {word : String} : Says yes word ↔ word = verdict yes := by
  constructor
  · rintro (- | -)
    · rfl
    · rfl
  · rintro rfl
    cases yes with
    | false => exact .no
    | true => exact .yes

theorem oneLine_verdict (yes : Bool) : OneLine (verdict yes) := by
  cases yes with
  | false => decide
  | true => decide

/-! ## The header -/

/-- The line on the reach of an address. -/
inductive ReachLine (a : V6) : String → Prop
  | multicast {flags scope : UInt8} (hflags : a.multicastFlags = .ok flags)
      (hscope : a.multicastScope = .ok scope) :
      ReachLine a ("multicast:   flags 0x" ++ String.ofList (Nat.toDigits 16 flags.toNat) ++
        ", scope 0x" ++ String.ofList (Nat.toDigits 16 scope.toNat))
  | solicited {node : V6} (hnode : a.solicitedNode = .ok node) :
      ReachLine a ("solicited:   " ++ node.text)

/-- The line on the transition of an address. -/
inductive TransitionLine (a : V6) : String → Prop
  | teredo (htransition : a.transition = .teredo) : TransitionLine a "type:        teredo"
  | sixToFour {v4 : V4} (htransition : a.transition = .sixToFour)
      (hcarried : a.sixToFourV4 = .ok v4) : TransitionLine a ("type:        6to4 via " ++ v4.text)
  | normal (htransition : a.transition = .none) : TransitionLine a "type:        normal"

/-- The end of a header, which is empty unless the address is mapped. -/
inductive CarriedLines (a : V6) : String → Prop
  | mapped {v4 : V4} (hcarried : a.toV4 = .ok v4) :
      CarriedLines a ("ipv4:        " ++ v4.text ++ "\n")
  | none (hmapped : ¬ a.isMapped) : CarriedLines a ""

/-- The header of an address, to the letter. -/
inductive Header (a : V6) : String → Prop
  | lines {canonical json loopback privateUse linkLocal routable reach transition carried : String}
      (hcanonical : a.canonicalText = .ok canonical) (hjson : (Address.v6 a).toJson = .ok json)
      (hloopback : Says a.isLoopback loopback) (hprivate : Says a.isPrivate privateUse)
      (hlinkLocal : Says a.isLinkLocal linkLocal) (hroutable : Says a.isRoutable routable)
      (hreach : ReachLine a reach) (htransition : TransitionLine a transition)
      (hcarried : CarriedLines a carried) :
      Header a ("canonical:   " ++ canonical ++ "\n" ++
        "full:        " ++ a.fullText ++ "\n" ++
        "json:        " ++ json ++ "\n" ++
        "loopback:    " ++ loopback ++ "\n" ++
        "private:     " ++ privateUse ++ "\n" ++
        "link-local:  " ++ linkLocal ++ "\n" ++
        "routable:    " ++ routable ++ "\n" ++
        reach ++ "\n" ++ transition ++ "\n" ++ carried)

/-- Whoever asks for the scope of an address has found that it is multicast. -/
theorem askRoutable_eq (a : V6) : a.askRoutable = .ok a.isRoutable := by
  unfold V6.askRoutable V6.isRoutable
  split
  · next hglobal => rw [hglobal, Bool.true_or]
  · next hglobal =>
      rw [eq_false_of_ne_true hglobal, Bool.false_or]
      split
      · next hmulticast =>
          rw [V6.multicastScope, if_pos hmulticast, hmulticast, Bool.true_and]
          rfl
      · next hmulticast => rw [eq_false_of_ne_true hmulticast, Bool.false_and]

theorem ReachLine.eq_ok {line : String} (h : ReachLine a line) : reachLine a = .ok line := by
  cases h with
  | multicast hflags hscope =>
      have hmulticast : a.isMulticast := by
        by_contra hnot
        rw [V6.multicastFlags, if_neg hnot] at hflags
        cases hflags
      rw [reachLine, if_pos hmulticast, hflags, hscope]
      rfl
  | solicited hnode =>
      have hnot : ¬ a.isMulticast := by
        intro hmulticast
        rw [V6.solicitedNode, if_pos hmulticast] at hnode
        cases hnode
      rw [reachLine, if_neg hnot, hnode]
      rfl

theorem exists_reachLine (a : V6) : ∃ line, ReachLine a line ∧ OneLine line := by
  by_cases hmulticast : a.isMulticast
  · have hhex : ∀ number, OneLine (String.ofList (Hex.write number)) := fun number =>
      oneLine_ofList (Hex.newline_not_mem_of_read? (Hex.read?_write number))
    exact ⟨_, .multicast (if_pos hmulticast) (if_pos hmulticast),
      ((OneLine.append (by decide) (hhex _)).append (by decide)).append (hhex _)⟩
  · exact ⟨_, .solicited (V6.solicitedNode_of_not_isMulticast hmulticast),
      .append (by decide) (V6.oneLine_text _)⟩

theorem TransitionLine.eq_ok {line : String} (h : TransitionLine a line) :
    transitionLine a = .ok line := by
  cases h with
  | teredo htransition => rw [transitionLine, htransition]
  | sixToFour htransition hcarried =>
      rw [transitionLine, htransition]
      simp only [hcarried]
      rfl
  | normal htransition => rw [transitionLine, htransition]

theorem exists_transitionLine (a : V6) : ∃ line, TransitionLine a line ∧ OneLine line := by
  cases htransition : a.transition with
  | none => exact ⟨_, .normal htransition, by decide⟩
  | teredo => exact ⟨_, .teredo htransition, by decide⟩
  | sixToFour =>
      -- the transition is the test that the address carries one
      have hsome : a.sixToFour? = some _ := if_pos htransition
      obtain ⟨v4, hcarried⟩ : ∃ v4, a.sixToFourV4 = .ok v4 := by
        rw [V6.sixToFourV4, hsome]
        exact ⟨_, rfl⟩
      exact ⟨_, .sixToFour htransition hcarried, .append (by decide) v4.oneLine_text⟩

theorem exists_carriedLines (a : V6) :
    ∃ lines, carriedLines a = lines.map .ok ∧ CarriedLines a (unlines lines) ∧
      ∀ line ∈ lines, OneLine line := by
  unfold carriedLines
  split
  · next hmapped =>
      obtain ⟨v4, hcarried⟩ := V6.exists_toV4_iff.mpr hmapped
      refine ⟨["ipv4:        " ++ v4.text], ?_, ?_, ?_⟩
      · rw [hcarried]
        rfl
      · simp only [unlines, String.append_empty]
        exact .mapped hcarried
      · rw [List.forall_mem_singleton]
        exact .append (by decide) v4.oneLine_text
  · next hmapped => exact ⟨[], rfl, .none hmapped, List.forall_mem_nil _⟩

theorem CarriedLines.unique {carried other : String} (h : CarriedLines a carried)
    (hother : CarriedLines a other) : carried = other := by
  cases h with
  | mapped hcarried =>
      cases hother with
      | mapped hagain => rw [Except.ok.inj (hcarried.symm.trans hagain)]
      | none hnot => exact absurd (V6.exists_toV4_iff.mp ⟨_, hcarried⟩) hnot
  | none hnot =>
      cases hother with
      | mapped hcarried => exact absurd (V6.exists_toV4_iff.mp ⟨_, hcarried⟩) hnot
      | none => rfl

theorem Says.unique {yes : Bool} {word other : String} (h : Says yes word)
    (hother : Says yes other) : word = other :=
  (says_iff.mp h).trans (says_iff.mp hother).symm

theorem Header.unique {top other : String} (h : Header a top) (hother : Header a other) :
    top = other := by
  obtain ⟨hcanonical, hjson, hloopback, hprivate, hlinkLocal, hroutable, hreach, htransition,
    hcarried⟩ := h
  obtain ⟨hcanonical', hjson', hloopback', hprivate', hlinkLocal', hroutable', hreach',
    htransition', hcarried'⟩ := hother
  rw [Except.ok.inj (hcanonical.symm.trans hcanonical'), Except.ok.inj (hjson.symm.trans hjson'),
    hloopback.unique hloopback', hprivate.unique hprivate', hlinkLocal.unique hlinkLocal',
    hroutable.unique hroutable', Except.ok.inj (hreach.eq_ok.symm.trans hreach'.eq_ok),
    Except.ok.inj (htransition.eq_ok.symm.trans htransition'.eq_ok), hcarried.unique hcarried']

/-- Every address has a header, and none of its lines is a fault. -/
theorem exists_header (a : V6) :
    ∃ lines, header a = lines.map .ok ∧ Header a (unlines lines) ∧
      ∀ line ∈ lines, OneLine line := by
  obtain ⟨reach, hreach, hreachOne⟩ := exists_reachLine a
  obtain ⟨transition, htransition, htransitionOne⟩ := exists_transitionLine a
  obtain ⟨carried, hcarried, hcarriedLines, hcarriedOne⟩ := exists_carriedLines a
  have hcanonical := a.canonicalText_eq_ok
  have hjson := Address.toJson_eq_json (.v6 a)
  refine ⟨["canonical:   " ++ a.text, "full:        " ++ a.fullText,
    "json:        " ++ (Address.v6 a).describe.json, "loopback:    " ++ verdict a.isLoopback,
    "private:     " ++ verdict a.isPrivate, "link-local:  " ++ verdict a.isLinkLocal,
    "routable:    " ++ verdict a.isRoutable, reach, transition] ++ carried, ?_, ?_, ?_⟩
  · rw [header, hcanonical, hjson, askRoutable_eq, hreach.eq_ok, htransition.eq_ok, hcarried,
      List.map_append]
    rfl
  · have hlines := Header.lines hcanonical hjson (says_iff.mpr rfl) (says_iff.mpr rfl)
      (says_iff.mpr rfl) (says_iff.mpr rfl) hreach htransition hcarriedLines
    simpa only [unlines_append, unlines, String.append_assoc, String.append_empty] using hlines
  · rw [List.forall_mem_append]
    refine ⟨?_, hcarriedOne⟩
    simp only [List.forall_mem_cons]
    exact ⟨.append (by decide) a.oneLine_text, .append (by decide) a.oneLine_fullText,
      .append (by decide) (Descriptor.oneLine_json _), .append (by decide) (oneLine_verdict _),
      .append (by decide) (oneLine_verdict _), .append (by decide) (oneLine_verdict _),
      .append (by decide) (oneLine_verdict _), hreachOne, htransitionOne, List.forall_mem_nil _⟩

/-! ## The other arguments -/

/-- The lines of networks, in order: one for each that answers, and none for each that does not. -/
inductive Members (a : V6) : List String → String → Prop
  | nil : Members a [] ""
  | answered {cidr word rest : String} {cidrs : List String} {yes : Bool}
      (hanswer : a.inNetwork cidr = .ok yes) (hword : Says yes word)
      (hrest : Members a cidrs rest) :
      Members a (cidr :: cidrs) ("in " ++ cidr ++ ": " ++ word ++ "\n" ++ rest)
  | passedOver {cidr rest : String} {cidrs : List String} {e : Error}
      (hanswer : a.inNetwork cidr = .error e) (hrest : Members a cidrs rest) :
      Members a (cidr :: cidrs) rest

theorem memberLine?_of_error (h : a.inNetwork cidr = .error e) : memberLine? a cidr = none := by
  rw [memberLine?, h]

theorem memberLine?_of_ok {yes : Bool} (h : a.inNetwork cidr = .ok yes) :
    memberLine? a cidr = some ("in " ++ cidr ++ ": " ++ verdict yes) := by
  rw [memberLine?, h]

theorem members_iff {out : String} :
    Members a cidrs out ↔ out = unlines (cidrs.filterMap (memberLine? a)) := by
  constructor
  · intro h
    induction h with
    | nil => rfl
    | answered hanswer hword _ ih =>
        rw [List.filterMap_cons_some (memberLine?_of_ok hanswer), unlines, says_iff.mp hword, ih]
    | passedOver hanswer _ ih => rw [List.filterMap_cons_none (memberLine?_of_error hanswer), ih]
  · rintro rfl
    induction cidrs with
    | nil => exact .nil
    | cons cidr cidrs ih =>
        cases hanswer : a.inNetwork cidr with
        | ok yes =>
            rw [List.filterMap_cons_some (memberLine?_of_ok hanswer), unlines]
            exact .answered hanswer (says_iff.mpr rfl) ih
        | error e =>
            rw [List.filterMap_cons_none (memberLine?_of_error hanswer)]
            exact .passedOver hanswer ih

/-- A network that answers is on one line, and so is its verdict. -/
theorem oneLine_of_inNetwork {yes : Bool} (h : a.inNetwork cidr = .ok yes) : OneLine cidr := by
  cases hparse : Network.parse cidr with
  | ok network => exact Network.oneLine_of_parse hparse
  | error e =>
      rw [V6.inNetwork_of_error hparse] at h
      cases h

/-! ## The outcome -/

/-- What is left behind for a list of arguments. -/
inductive Leaves (program : String) : List String → Outcome → Prop
  | usage : Leaves program [] ⟨2, "", "usage: " ++ program ++ " <address|mac> [cidr...]\n"⟩
  | fault {text shown : String} {cidrs : List String} {e : Error}
      (hnone : ∀ a, ¬ Denotes text a) (hfault : V6.parse text = .error e)
      (hcomplaint : Complaint text e.detail) (hquotes : Quotes e.detail shown) :
      Leaves program (text :: cidrs) ⟨1, "", "Error: AddressFormat(" ++ shown ++ ")\n"⟩
  | report {text top members : String} {cidrs : List String} {a : V6} (hdenotes : Denotes text a)
      (htop : Header a top) (hmembers : Members a cidrs members) :
      Leaves program (text :: cidrs) ⟨0, top ++ members, ""⟩

theorem errorLine_append (shown : String) :
    "Error: " ++ ("AddressFormat(" ++ shown ++ ")") ++ "\n" =
      "Error: AddressFormat(" ++ shown ++ ")\n" := by
  simp only [← String.toList_inj, String.toList_append, List.append_assoc]
  rfl

/-- An error of the readers is quoted, and nothing is printed before it. -/
theorem run_of_fault (hnone : ∀ a, ¬ Denotes text a) (hfault : V6.parse text = .error e) :
    run (text :: cidrs) program =
      ⟨1, "", "Error: AddressFormat(" ++ quote e.detail ++ ")\n"⟩ := by
  have hkind := V6.Grammar.kind_of_parse_error hfault
  rw [run, subject_eq_error_iff.mpr ⟨hnone, hfault⟩]
  simp only [fail, hkind, showError_of_addressFormat hkind, errorLine_append]

/-- All lines of the header are printed, so the networks have their turn. -/
theorem run_of_denotes (hdenotes : Denotes text a) (hheader : header a = lines.map .ok) :
    run (text :: cidrs) program =
      ⟨0, unlines lines ++ unlines (cidrs.filterMap (memberLine? a)), ""⟩ := by
  simp only [run, subject_eq_ok_iff.mpr hdenotes, hheader, printed_map_ok, unlines_append]

/-- What is left behind is what the rules say. -/
theorem run_eq_iff_leaves {args : List String} {o : Outcome} :
    run args program = o ↔ Leaves program args o := by
  constructor
  · rintro rfl
    cases args with
    | nil => exact .usage
    | cons text cidrs =>
        cases hsubject : subject text with
        | error e =>
            obtain ⟨hnone, hfault⟩ := subject_eq_error_iff.mp hsubject
            rw [run_of_fault hnone hfault]
            exact .fault hnone hfault (complaint_of_parse hfault) (quotes_iff.mpr rfl)
        | ok a =>
            have hdenotes := subject_eq_ok_iff.mp hsubject
            obtain ⟨lines, hheader, htop, -⟩ := exists_header a
            rw [run_of_denotes hdenotes hheader]
            exact .report hdenotes htop (members_iff.mpr rfl)
  · intro h
    cases h with
    | usage => rfl
    | fault hnone hfault _ hquotes => rw [run_of_fault hnone hfault, quotes_iff.mp hquotes]
    | @report text top members cidrs a hdenotes htop hmembers =>
        obtain ⟨lines, hheader, hlines, -⟩ := exists_header a
        rw [run_of_denotes hdenotes hheader, htop.unique hlines, members_iff.mp hmembers]

theorem leaves_run (args : List String) (program : String) :
    Leaves program args (run args program) :=
  run_eq_iff_leaves.mp rfl

/-- The code of a question that should not have been asked is none of these. -/
theorem Leaves.code_mem {args : List String} {o : Outcome} (h : Leaves program args o) :
    o.code ∈ [0, 1, 2] := by
  cases h with
  | usage | fault | report => simp

/-- A network that gives no answer might as well not be there. -/
theorem run_passedOver {before after : List String} (hdenotes : Denotes text a)
    (hanswer : a.inNetwork cidr = .error e) :
    run (text :: (before ++ cidr :: after)) program = run (text :: (before ++ after)) program := by
  obtain ⟨lines, hheader, -⟩ := exists_header a
  rw [run_of_denotes hdenotes hheader, run_of_denotes hdenotes hheader, List.filterMap_append,
    List.filterMap_append, List.filterMap_cons_none (memberLine?_of_error hanswer)]

theorem usage_iff {args : List String} :
    (run args program).code = 2 ∧ (run args program).stdout = "" ↔ args = [] := by
  constructor
  · rintro ⟨hcode, -⟩
    have hleaves := leaves_run args program
    generalize run args program = o at hcode hleaves
    cases hleaves with
    | usage => rfl
    | fault | report => cases hcode
  · rintro rfl
    exact ⟨rfl, rfl⟩

/-- The error is one line whatever the argument is. -/
theorem fault_iff :
    ((run (text :: cidrs) program).code = 1 ∧ (run (text :: cidrs) program).stdout = "" ∧
      ∃ line, OneLine line ∧ (run (text :: cidrs) program).stderr = "Error: " ++ line ++ "\n") ↔
      ∀ a, ¬ Denotes text a := by
  have hleaves := leaves_run (text :: cidrs) program
  generalize run (text :: cidrs) program = o at hleaves
  cases hleaves with
  | @fault _ shown _ e hnone hfault _ hquotes =>
      have hline : OneLine ("AddressFormat(" ++ shown ++ ")") := by
        rw [quotes_iff.mp hquotes]
        exact (OneLine.append (by decide) (oneLine_quote e.detail)).append (by decide)
      exact iff_of_true ⟨rfl, rfl, _, hline, (errorLine_append shown).symm⟩ hnone
  | report hdenotes =>
      refine iff_of_false ?_ fun hnone => hnone _ hdenotes
      rintro ⟨hcode, -⟩
      cases hcode

theorem report_iff :
    (run (text :: cidrs) program).code = 0 ∧ (run (text :: cidrs) program).stderr = "" ↔
      ∃ a, Denotes text a := by
  have hleaves := leaves_run (text :: cidrs) program
  generalize run (text :: cidrs) program = o at hleaves
  cases hleaves with
  | fault hnone =>
      refine iff_of_false ?_ fun ⟨a, ha⟩ => hnone a ha
      rintro ⟨hcode, -⟩
      cases hcode
  | report hdenotes => exact iff_of_true ⟨rfl, rfl⟩ ⟨_, hdenotes⟩

/-- The header is the same whatever networks follow. -/
theorem exists_report (hdenotes : Denotes text a) :
    ∃ top, Header a top ∧ ∀ cidrs program, ∃ members, Members a cidrs members ∧
      run (text :: cidrs) program = ⟨0, top ++ members, ""⟩ := by
  obtain ⟨lines, hheader, htop, -⟩ := exists_header a
  exact ⟨_, htop, fun cidrs program => ⟨_, members_iff.mpr rfl, run_of_denotes hdenotes hheader⟩⟩

/-- No line of a header is a fault, and each is one line. -/
theorem exists_line_of_mem_header {entry : Except Error String} (h : entry ∈ header a) :
    ∃ line, entry = .ok line ∧ OneLine line := by
  obtain ⟨lines, hheader, -, hone⟩ := exists_header a
  rw [hheader] at h
  obtain ⟨line, hline, rfl⟩ := List.mem_map.mp h
  exact ⟨line, rfl, hone line hline⟩

/-- **What the program leaves behind is what the rules say**, to the letter, for every list of
arguments.  The code tells which of the three rules it was, and there is no fourth code.  No line
of a header is a fault, so no question is put to an address that has no answer to it, and the
header is the same whatever networks follow.  Each network that answers has its one line, in
order, and one that does not answer takes nothing from the others. -/
theorem run_leaves :
    (∀ program args o, run args program = o ↔ Leaves program args o) ∧
    (∀ program args, (run args program).code ∈ [0, 1, 2]) ∧
    (∀ program args, (run args program).code = 2 ∧ (run args program).stdout = "" ↔ args = []) ∧
    (∀ program text cidrs, ((run (text :: cidrs) program).code = 1 ∧
        (run (text :: cidrs) program).stdout = "" ∧
        ∃ line, OneLine line ∧ (run (text :: cidrs) program).stderr = "Error: " ++ line ++ "\n") ↔
      ∀ a, ¬ Denotes text a) ∧
    (∀ program text cidrs, (run (text :: cidrs) program).code = 0 ∧
        (run (text :: cidrs) program).stderr = "" ↔ ∃ a, Denotes text a) ∧
    (∀ a, a.askRoutable = .ok a.isRoutable ∧
      ∀ entry ∈ header a, ∃ line, entry = .ok line ∧ OneLine line) ∧
    (∀ text a, Denotes text a → ∃ top, Header a top ∧
      ∀ cidrs program, ∃ members, Members a cidrs members ∧
        run (text :: cidrs) program = ⟨0, top ++ members, ""⟩) ∧
    (∀ (a : V6) cidr yes, a.inNetwork cidr = .ok yes → OneLine cidr) ∧
    ∀ program text (a : V6) before cidr after e, Denotes text a → a.inNetwork cidr = .error e →
      run (text :: (before ++ cidr :: after)) program =
        run (text :: (before ++ after)) program := by
  refine ⟨fun _ _ _ => run_eq_iff_leaves, fun program args => (leaves_run args program).code_mem,
    fun _ _ => usage_iff, fun _ _ _ => fault_iff, fun _ _ _ => report_iff,
    fun a => ⟨askRoutable_eq a, fun _ => exists_line_of_mem_header⟩, fun _ _ => exists_report,
    fun _ _ _ => oneLine_of_inNetwork, fun _ _ _ _ _ _ _ => run_passedOver⟩

end InetAddress.Report
