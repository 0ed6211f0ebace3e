import Columnar.Stream.Sink

/-!
What a sink has received. `Sink.recording` notes beside a sink's own state the bytes that it took, and
is otherwise the same sink (`emit_recording`). Whatever the sink does, it takes a first part of what it
is offered, and the whole of it if no request fails.
-/
namespace Columnar.Sink

variable {σ : Type}

/-- The sink with a note of all bytes it took. -/
def recording (sink : Sink σ) : Sink (σ × Bytes) where
  write state bytes :=
    match sink.write state.1 bytes with
    | (.ok taken, next) => (.ok taken, next, state.2 ++ bytes.take taken)
    | (.error e, next) => (.error e, next, state.2)
  flush state :=
    let (result, next) := sink.flush state.1
    (result, next, state.2)

/-- How a run of a sink on the given bytes shows in its recording. -/
structure Recorded (received offered : Bytes) (plain : Except IoError Unit × σ)
    (noted : Except IoError Unit × σ × Bytes) : Prop where
  result : noted.1 = plain.1
  state : noted.2.1 = plain.2
  taken : ∃ taken, noted.2.2 = received ++ taken ∧ taken <+: offered ∧
    (plain.1 = .ok () → taken = offered)

theorem recording_write_ok {sink : Sink σ} {state next : σ} {bytes : Bytes} {taken : Nat}
    (accepted : sink.write state bytes = (.ok taken, next)) (received : Bytes) :
    sink.recording.write (state, received) bytes =
      (.ok taken, next, received ++ bytes.take taken) := by
  simp [recording, accepted]

theorem recording_write_error {sink : Sink σ} {state next : σ} {bytes : Bytes} {e : IoError}
    (failed : sink.write state bytes = (.error e, next)) (received : Bytes) :
    sink.recording.write (state, received) bytes = (.error e, next, received) := by
  simp [recording, failed]

theorem writeAll_recording (sink : Sink σ) (state : σ) (received bytes : Bytes) :
    Recorded received bytes (sink.writeAll state bytes)
      (sink.recording.writeAll (state, received) bytes) := by
  fun_induction sink.writeAll state bytes generalizing received with
  | case1 state =>
    rw [writeAll]
    exact ⟨rfl, rfl, [], by simp, by simp, fun _ => rfl⟩
  | case2 state byte rest e next failed =>
    rw [writeAll, recording_write_error failed]
    exact ⟨rfl, rfl, [], by simp, by simp, fun ok => nomatch ok⟩
  | case3 state byte rest next stalled =>
    rw [writeAll, recording_write_ok stalled]
    exact ⟨rfl, rfl, [], by simp, by simp, fun ok => nomatch ok⟩
  | case4 state byte rest taken next accepted ih =>
    rw [writeAll, recording_write_ok accepted]
    obtain ⟨result, same, more, noted, ⟨left, remaining⟩, whole⟩ :=
      ih (received ++ (byte :: rest).take (taken + 1))
    have parts : (byte :: rest).take (taken + 1) ++ rest.drop taken = byte :: rest :=
      List.take_append_drop (taken + 1) (byte :: rest)
    refine ⟨result, same, (byte :: rest).take (taken + 1) ++ more, ?_, ⟨left, ?_⟩, ?_⟩
    · exact noted.trans (List.append_assoc _ _ _)
    · rw [List.append_assoc, remaining, parts]
    · intro ok
      rw [whole ok, parts]

theorem perform_recording (sink : Sink σ) (state : σ) (received : Bytes) (emission : Emission) :
    Recorded received emission.bytes (sink.perform state emission)
      (sink.recording.perform (state, received) emission) := by
  cases emission with
  | write bytes => exact writeAll_recording sink state received bytes
  | flush => exact ⟨rfl, rfl, [], by simp [perform, recording], by simp, fun _ => rfl⟩

theorem emit_recording (sink : Sink σ) (state : σ) (received : Bytes) (emissions : List Emission) :
    Recorded received (Emission.allBytes emissions) (sink.emit state emissions)
      (sink.recording.emit (state, received) emissions) := by
  induction emissions generalizing state received with
  | nil => exact ⟨rfl, rfl, [], by simp [emit], by simp, fun _ => rfl⟩
  | cons emission rest ih =>
    obtain ⟨result, same, taken, noted, first, whole⟩ :=
      perform_recording sink state received emission
    have all : Emission.allBytes (emission :: rest) = emission.bytes ++ Emission.allBytes rest := by
      simp [Emission.allBytes]
    rw [emit, emit, all]
    cases outcome : sink.perform state emission with
    | mk answer next =>
      cases noting : sink.recording.perform (state, received) emission with
      | mk answer' next' =>
        rw [outcome, noting] at result same
        rw [noting] at noted
        rw [outcome] at whole
        dsimp only at result same noted whole
        subst result
        cases answer' with
        | error e =>
          exact ⟨rfl, same, taken, noted, first.trans (List.prefix_append _ _),
            fun ok => nomatch ok⟩
        | ok done =>
          cases done
          obtain ⟨state', received'⟩ := next'
          dsimp only at same noted
          obtain rfl := whole rfl
          subst same noted
          obtain ⟨result, same, more, noted, later, wholeRest⟩ :=
            ih state' (received ++ emission.bytes)
          refine ⟨result, same, emission.bytes ++ more, ?_, ?_, ?_⟩
          · rw [noted, List.append_assoc]
          · exact (List.prefix_append_right_inj _).mpr later
          · intro ok
            rw [wholeRest ok]

theorem writeAll_memory (received bytes : Bytes) :
    memory.writeAll received bytes = (.ok (), received ++ bytes) := by
  cases bytes with
  | nil => simp [writeAll]
  | cons byte rest => simp [writeAll, memory]

theorem emit_memory (received : Bytes) (emissions : List Emission) :
    memory.emit received emissions = (.ok (), received ++ Emission.allBytes emissions) := by
  induction emissions generalizing received with
  | nil => simp [emit, Emission.allBytes]
  | cons emission rest ih =>
    have taken : memory.perform received emission = (.ok (), received ++ emission.bytes) := by
      cases emission with
      | write bytes => exact writeAll_memory received bytes
      | flush => simp [perform, memory, Emission.bytes]
    rw [emit, taken]
    dsimp only
    rw [ih, List.append_assoc]
    simp [Emission.allBytes]

end Columnar.Sink
