import WorkflowCheck.Proofs.Run.Independence

/-! A run whose streams are too short. It goes along with the run that has room for all output, in
the same world but for the limits, up to the first print that does not fit: that one is cut, and
nothing comes after it. -/

namespace WorkflowCheck

open Report (Channel Print Streams)

namespace Report.Stream

variable {s : Stream} {limit : Nat}

theorem written_write_of_limit (h : s.limit = some limit) (hroom : s.written.length ≤ limit)
    (bytes : Bytes) : (s.write bytes).written = (s.written ++ bytes).take limit := by
  rw [List.take_append, List.take_of_length_le hroom]
  simp only [write, taken, h]

theorem fits_iff_length_le (h : s.limit = some limit) {bytes : Bytes} :
    s.fits bytes = true ↔ (s.written ++ bytes).length ≤ limit := by
  simp [fits, h]

end Report.Stream

namespace World

/-- The world `v` is `w` but for the streams, which end at the given limits and have not been asked
for more. -/
structure Limited (limits : Channel → Nat) (w v : World) : Prop where
  tree : v.tree = w.tree
  notices : v.notices = w.notices
  output : ∀ channel, v.output channel = w.output channel
  limit : ∀ channel, (v.streams.stream channel).limit = some (limits channel)
  room : ∀ channel, (w.output channel).length ≤ limits channel

/-- What a print comes to that goes beyond the limit of its stream: the stream is filled up to the
limit, and all else is as before. -/
structure Cut (limit : Nat) (w : World) (print : Print) (v : World) : Prop where
  begun : (w.output print.channel).length ≤ limit
  beyond : limit < (w.output print.channel ++ Text.encode print.text).length
  written : v.output print.channel <+: w.output print.channel ++ Text.encode print.text
  full : (v.output print.channel).length = limit
  others : ∀ channel, channel ≠ print.channel → v.output channel = w.output channel
  tree : v.tree = w.tree
  notices : v.notices = w.notices

/-- The effects up to a print that goes beyond the limit of its stream. -/
def StoppedIn (limits : Channel → Nat) (w : World) (effects : List Effect) (v : World) : Prop :=
  ∃ done print rest u, effects = done ++ .print print :: rest ∧ w.performAll done = (u, none) ∧
    Cut (limits print.channel) u print v

variable {limits : Channel → Nat} {w w' v : World} {effects : List Effect}

theorem Limited.fits_iff (h : Limited limits w v) (print : Print) : v.streams.fits print = true ↔
    (w.output print.channel ++ Text.encode print.text).length ≤ limits print.channel := by
  rw [← h.output]
  exact Report.Stream.fits_iff_length_le (h.limit print.channel)

theorem Limited.print (h : Limited limits w v) {print : Print} (hw : w.streams.fits print = true)
    (hv : v.streams.fits print = true) :
    Limited limits { w with streams := w.streams.print print }
      { v with streams := v.streams.print print } := by
  constructor
  case tree => exact h.tree
  case notices => exact h.notices
  case output =>
    intro channel
    rw [output_print_of_fits hw, output_print_of_fits hv, h.output]
  case limit =>
    intro channel
    rw [Streams.stream_print]
    split <;> exact h.limit channel
  case room =>
    intro channel
    rw [output_print_of_fits hw, Report.bytesOn_singleton]
    split
    · next hc =>
      subst hc
      exact (h.fits_iff print).mp hv
    · rw [List.append_nil]
      exact h.room channel

theorem Limited.cut (h : Limited limits w v) {print : Print} (hv : v.streams.fits print ≠ true) :
    Cut (limits print.channel) w print { v with streams := v.streams.print print } := by
  have hbegun := h.room print.channel
  have hbeyond := Nat.lt_of_not_le ((h.fits_iff print).not.mp hv)
  have hcut : ({ v with streams := v.streams.print print } : World).output print.channel =
      (w.output print.channel ++ Text.encode print.text).take (limits print.channel) := by
    rw [← h.output] at hbegun ⊢
    rw [World.output, Streams.stream_print, if_pos rfl]
    exact Report.Stream.written_write_of_limit (h.limit print.channel) hbegun _
  constructor
  case begun => exact hbegun
  case beyond => exact hbeyond
  case written =>
    rw [hcut]
    exact List.take_prefix _ _
  case full =>
    rw [hcut, List.length_take]
    omega
  case others =>
    intro channel hc
    rw [World.output, Streams.stream_print, if_neg hc.symm]
    exact h.output channel
  case tree => exact h.tree
  case notices => exact h.notices

/-- An effect that succeeds with room for all output goes the same way under limits, or it is a
print that is cut. -/
theorem Limited.perform (h : Limited limits w v) {e : Effect} (he : w.perform e = (w', none)) :
    (∃ v', v.perform e = (v', none) ∧ Limited limits w' v') ∨
      ∃ print v', e = .print print ∧ v.perform e = (v', some (.output .full)) ∧
        Cut (limits print.channel) w print v' := by
  cases e with
  | print print =>
    obtain ⟨hw, rfl⟩ := perform_print_eq_ok.mp he
    by_cases hv : v.streams.fits print = true
    · exact .inl ⟨_, perform_print_eq_ok.mpr ⟨hv, rfl⟩, h.print hw hv⟩
    · exact .inr ⟨print, _, rfl, by rw [World.perform, if_neg hv], h.cut hv⟩
  | note n =>
    cases he
    exact .inl ⟨_, rfl, h.tree, congrArg (· ++ [n]) h.notices, h.output, h.limit, h.room⟩
  | save path text =>
    obtain ⟨tree, hwrite, rfl⟩ := perform_save_eq_ok.mp he
    rw [← h.tree] at hwrite
    have hperform := perform_save_eq_ok.mpr ⟨tree, hwrite, rfl⟩
    exact .inl ⟨{ v with tree := tree }, hperform, rfl, h.notices, h.output, h.limit, h.room⟩

/-- A run that succeeds with room for all output goes the same way under limits, or it is stopped
by a print. -/
theorem Limited.performAll (h : Limited limits w v) (hw : w.performAll effects = (w', none)) :
    (∃ v', v.performAll effects = (v', none) ∧ Limited limits w' v') ∨
      ∃ v', v.performAll effects = (v', some (.output .full)) ∧ StoppedIn limits w effects v' := by
  induction effects generalizing w v with
  | nil =>
    cases hw
    exact .inl ⟨v, rfl, h⟩
  | cons e rest ih =>
    obtain ⟨u, he, hrest⟩ := performAll_cons_ok.mp hw
    rcases h.perform he with ⟨v', hv, h'⟩ | ⟨print, v', rfl, hv, hcut⟩
    · rcases ih h' hrest with ⟨v'', hv', h''⟩ | ⟨v'', hv', done, print, rest', u', rfl, hu, hcut⟩
      · exact .inl ⟨v'', performAll_cons_ok.mpr ⟨v', hv, hv'⟩, h''⟩
      · refine .inr ⟨v'', ?_, e :: done, print, rest', u', rfl, ?_, hcut⟩
        · rw [World.performAll, hv]
          exact hv'
        · exact performAll_cons_ok.mpr ⟨u, he, hu⟩
    · exact .inr ⟨v', by rw [World.performAll, hv], [], print, rest, w, rfl, rfl, hcut⟩

theorem Cut.output_prefix {limit : Nat} {print : Print} (h : Cut limit w print v) (channel : Channel) :
    v.output channel <+: w.output channel ++ Report.bytesOn channel [print] := by
  rw [Report.bytesOn_singleton]
  split
  · next hc =>
    subst hc
    exact h.written
  · next hc =>
    rw [List.append_nil, h.others channel (Ne.symm hc)]

/-- What a stopped run has put out is where the run with room for all output begins, and that run
puts out more than some stream takes. -/
theorem StoppedIn.output (h : StoppedIn limits w effects v) (hw : w.performAll effects = (w', none)) :
    (∀ channel, v.output channel <+: w'.output channel) ∧
      ∃ channel, limits channel < (w'.output channel).length := by
  obtain ⟨done, print, rest, u, rfl, hu, hcut⟩ := h
  have hbytes : ∀ channel, u.output channel ++ Report.bytesOn channel [print] <+: w'.output channel := by
    intro channel
    obtain ⟨u', hu', hrest⟩ := performAll_append_eq_ok.mp hw
    obtain rfl : u = u' := congrArg Prod.fst (hu.symm.trans hu')
    have hprints : prints (.print print :: rest) = [print] ++ prints rest := rfl
    rw [output_of_performAll hrest, hprints, Report.bytesOn_append, ← List.append_assoc]
    exact List.prefix_append _ _
  refine ⟨fun channel => (hcut.output_prefix channel).trans (hbytes channel), print.channel, ?_⟩
  have hlen := (hbytes print.channel).length_le
  rw [Report.bytesOn_singleton, if_pos rfl] at hlen
  exact hcut.beyond.trans_le hlen

theorem limited_ofLimits (limits : Channel → Nat) (t : FileTree) (notices : List Notice) :
    Limited limits ⟨t, .ofLimits none none, notices⟩
      ⟨t, .ofLimits (some (limits .out)) (some (limits .err)), notices⟩ := by
  constructor
  case tree => rfl
  case notices => rfl
  case output =>
    intro channel
    rw [World.output, World.output, Streams.written_ofLimits, Streams.written_ofLimits]
  case limit =>
    intro channel
    cases channel <;> rfl
  case room =>
    intro channel
    rw [World.output, Streams.written_ofLimits]
    exact Nat.zero_le _

end World

namespace Runner

theorem effects_plan (r : Runner) (config : RunConfig) (timing timing' : Timing) (t : FileTree) :
    (r.plan config timing' t).effects = (r.plan config timing t).effects := by
  cases hfound : (Discovery.discover t config.root config.snapshotFile).result with
  | error failure => rw [plan_of_failed timing hfound, plan_of_failed timing' hfound]
  | ok cases => rw [plan_of_found timing hfound, plan_of_found timing' hfound]

/-- A run with limited streams comes to the same end as one with room for all output if and only if
that output fits. If it does not, the run fails when it comes to the first byte that is too much,
with everything before that byte done and printed and nothing after it. -/
theorem limited_run_truncates {r : Runner} {config : RunConfig} {timing : Timing} {t : FileTree}
    {notices : List Notice} {whole : World} {summary : Summary}
    (hwhole : r.run config timing ⟨t, .ofLimits none none, notices⟩ = (whole, .ok summary))
    (timing' : Timing) (limits : Channel → Nat) :
    let after := r.run config timing'
      ⟨t, .ofLimits (some (limits .out)) (some (limits .err)), notices⟩
    ((after.2 = .ok { summary with timing := timing' } ∧
        ∀ channel, after.1.output channel = whole.output channel) ↔
      ∀ channel, (whole.output channel).length ≤ limits channel) ∧
    ((∃ channel, limits channel < (whole.output channel).length) →
      after.2 = .error (.output .full) ∧
        (∀ channel, after.1.output channel <+: whole.output channel) ∧
        World.StoppedIn limits ⟨t, .ofLimits none none, notices⟩ (r.plan config timing t).effects
          after.1) := by
  intro after
  obtain ⟨cases, hcases, hperform, rfl⟩ := run_eq_ok.mp hwhole
  rcases (World.limited_ofLimits limits t notices).performAll hperform with
    ⟨v, hv, hlimited⟩ | ⟨v, hv, hstopped⟩
  · have hafter : after = (v, .ok ⟨config.mode, timing', cases.map (r.outcome config.mode)⟩) :=
      run_eq_ok.mpr ⟨cases, hcases, r.effects_plan config timing timing' t ▸ hv, rfl⟩
    rw [hafter]
    refine ⟨⟨fun _ => hlimited.room, fun _ => ⟨rfl, hlimited.output⟩⟩, ?_⟩
    rintro ⟨channel, hlt⟩
    exact absurd (hlimited.room channel) (Nat.not_le_of_lt hlt)
  · have hafter : after = (v, .error (.output .full)) :=
      World.follow_of_error (r.effects_plan config timing timing' t ▸ hv)
    obtain ⟨hbegins, channel, hlt⟩ := hstopped.output hperform
    rw [hafter]
    refine ⟨⟨fun h => (nomatch h.1), fun h => absurd (h channel) (Nat.not_le_of_lt hlt)⟩, fun _ => ?_⟩
    exact ⟨rfl, hbegins, hstopped⟩

end Runner

/-- A stream that takes four bytes is full before the stale snapshot is written. -/
theorem stale_run_out_of_space : ∃ whole summary,
    Stale.runner.run Stale.config Stale.timing ⟨Stale.lone, .ofLimits none none, []⟩ =
        (whole, .ok summary) ∧
      let after := Stale.runner.run Stale.config Stale.timing
        ⟨Stale.lone, .ofLimits (some 4) (some 4), []⟩
      after.2 = .error (.output .full) ∧ ∃ channel, (after.1.output channel).length = 4 := by
  have hcases : (Discovery.discover Stale.lone Stale.config.root Stale.config.snapshotFile).result =
      .ok [Stale.first] := by cbv
  obtain ⟨whole, hrun, houtput⟩ := Stale.runner.run_of_unlimited Stale.timing [] hcases
  refine ⟨whole, _, hrun, ?_⟩
  have hlong : 4 < (whole.output .out).length := by
    rw [houtput, List.flatMap_singleton]
    refine Nat.lt_of_lt_of_le ?_ (Stale.runner.length_header_le _ Stale.first .out)
    decide_cbv
  obtain ⟨herror, -, _, print, _, _, -, -, hcut⟩ :=
    (Runner.limited_run_truncates hrun Stale.timing fun _ => 4).2 ⟨.out, hlong⟩
  exact ⟨herror, print.channel, hcut.full⟩

end WorkflowCheck
