import Testbench.Proofs.Device.Live
import Testbench.Proofs.Image.Draft
import Testbench.Proofs.Request.Room
import Testbench.Proofs.Response

/-!
# Requests at work on their buffer

Whoever makes a request lends the device a buffer.  Here the buffer is part of the state, and an
answer is copied into it piece by piece, in the order in which the pieces come; a piece whose range
is not within the slice that it is copied to panics, with the pieces before it left where they are.
`control_eq` says that it never comes to that, so that what becomes of the buffer is as
`Driver.control` has it: the pieces have just the room that was checked beforehand.
-/

namespace Testbench.Driver.InPlace

open World

variable {ρ ε α : Type}

/-! ### Steps -/

/-- Something that is done to the world and to a buffer. -/
abbrev Work (ρ ε α : Type) : Type := Flow (World ρ ε × List UInt8) α

/-- What a request that does not unwind comes to: why it failed, or its status and the number of bytes
written. -/
abbrev Answer : Type := Except ControlError (ControlStatus × Nat)

/-- Something that has nothing to do with the buffer. -/
def aside (m : Act ρ ε α) : Work ρ ε α := fun s => ((m s.1).1, (m s.1).2, s.2)

/-- The length of the buffer. -/
def room : Work ρ ε Nat := Flow.see fun s => s.2.length

/-- Copies a piece into the first `limit` bytes of the buffer. -/
def put (limit : Nat) (x : Image.Write) : Work ρ ε Unit := fun s =>
  if x.stop ≤ limit ∧ limit ≤ s.2.length then (.ok (), s.1, (x.into s.2.toArray).toList)
  else (.error (.unwound (.panic none)), s)

/-- Copies pieces, one after the other. -/
def putAll (limit : Nat) : List Image.Write → Work ρ ε Unit
  | [] => return ()
  | x :: xs => do
    put limit x
    putAll limit xs

/-! ### Requests -/

/-- Copies the image of a module, or its size if the buffer is too small for it. -/
def putImage (k : Keyed ρ) : Work ρ ε Answer := do
  let length ← room
  if k.size ≤ length then
    putAll k.size (Image.writes k)
    return .ok (.success, k.size)
  else if length < 4 then return .error (.invalidParameter .outputSize)
  else
    put length ⟨0, le32 (UInt32.ofNat k.size)⟩
    return .ok (.overflow, 4)

/-- Copies the image of the module of a connection. -/
def putImageOf (address : UInt64) (c : ConnectionId) : Work ρ ε Answer := do
  match ← aside (seeDevice (·.get? c)) with
  | some connection => putImage connection.routines
  | none => return .error (.lookup (.notFound address))

/-- Queries the module of a driver. -/
def query (input : List UInt8) : Work ρ ε Answer := do
  match word64 0 (input.take 8).toArray with
  | none => return .error (.invalidParameter .inputSize)
  | some address =>
    match ← aside (lookup address) with
    | .error why => return .error (.lookup why)
    | .ok c => (putImageOf address c).ensuring (aside (release c))

/-- Lists the addresses of the drivers: first they are copied, and then the header in front of
them. -/
def list : Work ρ ε Answer := do
  let length ← room
  if length < 16 then return .error (.invalidParameter .outputSize)
  let listing ← aside (onDevice fun d => (d.list ((length - 8) / 8), d))
  put length ⟨8, listing.written.flatMap le64⟩
  put 8 ⟨0, le32 (UInt32.ofNat listing.available) ++ le32 0⟩
  return .ok (if listing.isComplete then .success else .overflow,
    8 + (listing.written.flatMap le64).length)

/-- Calls a routine of a driver: the response is copied, and then the events behind it. -/
def callRoutine (exec : Routines ρ ε) (input : List UInt8) : Work ρ ε Answer := do
  match CallRequest.ofBytes? input with
  | none => return .error (.invalidParameter .inputSize)
  | some request =>
    if request.address = 0 then return .error (.invalidParameter .address)
    match dispositionsOf request with
    | .error _ => return .error (.invalidParameter .disposition)
    | .ok dispositions =>
      let length ← room
      if length < CallResponse.size then return .error (.invalidParameter .outputSize)
      let channel ← aside (newObserver
        (.channel (.make dispositions (length - CallResponse.size))))
      match ← aside (callAt exec request channel) with
      | .error why => return .error why
      | .ok result =>
        let events ← aside (takeEvents channel)
        put CallResponse.size ⟨0, (responseOf result events).bytes⟩
        put length ⟨CallResponse.size, events.bytes⟩
        return .ok (.success, CallResponse.size + events.bytes.length)

/-- Does what a request asks for. -/
def control (exec : Routines ρ ε) (code : UInt32) (input : List UInt8) : Work ρ ε Answer :=
  match ControlCode.ofCode? code with
  | some .query => query input
  | some .list => list
  | some .call => callRoutine exec input
  | none => return .error (.unknownCode code)

/-! ### Pieces -/

variable {w w' : World ρ ε} {output : List UInt8}

lemma aside_eq {m : Act ρ ε α} {r : Except Stop α} (h : m w = (r, w')) :
    aside m (w, output) = (r, w', output) := by
  rw [aside, h]

/-- A piece whose range is there is copied. -/
lemma put_eq (w : World ρ ε) (output : List UInt8) {limit : Nat} (start : Nat) (bytes : List UInt8)
    (h : start + bytes.length ≤ limit)
    (h' : limit ≤ output.length) :
    put limit ⟨start, bytes⟩ (w, output)
      = (.ok (), w, output.take start ++ (bytes ++ output.drop (start + bytes.length))) := by
  have hfit : start + bytes.length ≤ output.toArray.size :=
    Nat.le_trans h (Nat.le_trans h' (Nat.le_of_eq List.size_toArray.symm))
  rw [put, if_pos ⟨h, h'⟩, Image.Write.into, Image.Write.toList_overwrite _ hfit]

lemma putAll_eq {limit : Nat} {xs : List Image.Write} (hxs : ∀ x ∈ xs, x.stop ≤ limit)
    (h : limit ≤ output.length) :
    putAll limit xs (w, output)
      = (.ok (), w, (xs.foldl Image.Write.into output.toArray).toList) := by
  induction xs generalizing output with
  | nil => rfl
  | cons x xs ih =>
    have hput : put limit x (w, output) = (.ok (), w, (x.into output.toArray).toList) :=
      if_pos ⟨hxs x List.mem_cons_self, h⟩
    have hlength : limit ≤ (x.into output.toArray).toList.length := by
      rwa [Array.length_toList, Image.Write.into, Image.Write.size_overwrite, List.size_toArray]
    rw [putAll, Flow.bind_ok hput, ih (fun y hy => hxs y (List.mem_cons_of_mem x hy)) hlength]
    rfl

/-- A piece at the start of a buffer is copied, and then one right behind it. -/
lemma put_put_eq {head body : List UInt8} (h : (head ++ body).length ≤ output.length)
    (answer : Answer) :
    (do
      put head.length ⟨0, head⟩
      put output.length ⟨head.length, body⟩
      return answer : Work ρ ε Answer) (w, output)
        = (.ok answer, w, (head ++ body) ++ output.drop (head ++ body).length) := by
  rw [List.length_append] at h
  have hhead := put_eq w output 0 head
    (Nat.le_of_eq (Nat.zero_add _)) (Nat.le_trans (Nat.le_add_right _ _) h)
  rw [List.take_zero, List.nil_append, Nat.zero_add] at hhead
  have hlength : (head ++ output.drop head.length).length = output.length := by
    rw [List.length_append, List.length_drop]
    omega
  have hbody := put_eq w (head ++ output.drop head.length) head.length body h
    (Nat.le_of_eq hlength.symm)
  rw [List.take_left, ← List.drop_drop, List.drop_left, List.drop_drop] at hbody
  rw [Flow.bind_ok hhead, Flow.bind_ok hbody, List.length_append, List.append_assoc]
  rfl

/-- A piece is copied, and then one at the start of the buffer, right in front of it. -/
lemma put_put_eq' {head body : List UInt8} (h : (head ++ body).length ≤ output.length)
    (answer : Answer) :
    (do
      put output.length ⟨head.length, body⟩
      put head.length ⟨0, head⟩
      return answer : Work ρ ε Answer) (w, output)
        = (.ok answer, w, (head ++ body) ++ output.drop (head ++ body).length) := by
  rw [List.length_append] at h
  have hbody := put_eq w output head.length body h (Nat.le_refl _)
  have htake : (output.take head.length).length = head.length :=
    List.length_take_of_le (Nat.le_trans (Nat.le_add_right _ _) h)
  have hhead := put_eq w
    (output.take head.length ++ (body ++ output.drop (head.length + body.length))) 0 head
    (Nat.le_of_eq (Nat.zero_add _)) (by rw [List.length_append, htake]; omega)
  rw [List.take_zero, List.nil_append, Nat.zero_add, List.drop_left' htake] at hhead
  rw [Flow.bind_ok hbody, Flow.bind_ok hhead, List.length_append, List.append_assoc]
  rfl

/-! ### Agreement -/

/-- What one who lent a buffer finds, after a request that came to this. -/
def found (output : List UInt8) :
    Except Stop (Except ControlError Completion) × World ρ ε →
      Except Stop Answer × World ρ ε × List UInt8
  | (.ok (.ok done), w) => (.ok (.ok (done.status, done.written)), w, done.output)
  | (.ok (.error why), w) => (.ok (.error why), w, output)
  | (.error stop, w) => (.error stop, w, output)

lemma putImage_eq (k : Keyed ρ) (w : World ρ ε) (output : List UInt8) :
    putImage k (w, output) = found output (.ok (writeImage k output), w) := by
  rw [putImage, room, Flow.bind_ok (Flow.see_apply _ _), writeImage, Image.writeInto]
  by_cases hsize : k.size ≤ output.length
  · have hall := putAll_eq (w := w) (fun x hx => Image.write_stop_le k hx) hsize
    rw [if_pos hsize, if_neg (Nat.not_lt.mpr hsize), Flow.bind_ok hall]
    rfl
  · rw [if_neg hsize, if_pos (Nat.lt_of_not_le hsize)]
    by_cases hshort : output.length < 4
    · simp only [if_pos hshort]
      rfl
    · have hput := put_eq w output 0 (le32 (UInt32.ofNat k.size)) (Nat.le_of_not_lt hshort)
        (Nat.le_refl _)
      simp only [if_neg hshort]
      rw [Flow.bind_ok hput]
      rfl

lemma putImageOf_eq (address : UInt64) (c : ConnectionId) (w : World ρ ε) (output : List UInt8) :
    putImageOf address c (w, output) = found output (.ok (match w.device.get? c with
      | some connection => writeImage connection.routines output
      | none => .error (.lookup (.notFound address))), w) := by
  have hsee : seeDevice (·.get? c) w = (.ok (w.device.get? c), w) := rfl
  rw [putImageOf, Flow.bind_ok (aside_eq hsee)]
  cases w.device.get? c with
  | none => rfl
  | some connection => exact putImage_eq connection.routines w output

/-- A request that came out is answered, and the world has no part in the answer. -/
lemma found_ok (output : List UInt8) (r : Except ControlError Completion) :
    ∃ answer buffer, ∀ w : World ρ ε, found output (.ok r, w) = (.ok answer, w, buffer) := by
  rcases r with why | done
  · exact ⟨_, _, fun _ => rfl⟩
  · exact ⟨_, _, fun _ => rfl⟩

lemma lookup_eq (address : UInt64) (w : World ρ ε) : lookup address w
    = (.ok (w.device.lookup address).1, { w with device := (w.device.lookup address).2 }) :=
  onDevice_eq w _

lemma release_eq (c : ConnectionId) (w : World ρ ε) :
    release c w = (.ok (), { w with device := w.device.release c }) := changeDevice_eq w _

lemma query_eq (input : List UInt8) (w : World ρ ε) (output : List UInt8) :
    query input (w, output) = found output (Driver.query input output w) := by
  rw [query, Driver.query]
  rcases word64 0 (input.take 8).toArray with - | address
  · rfl
  simp only []
  rw [Flow.bind_ok (lookup_eq address w), Flow.bind_ok (aside_eq (lookup_eq address w))]
  rcases (w.device.lookup address).1 with why | c
  · rfl
  generalize { w with device := (w.device.lookup address).2 } = w₁
  have hrelease := release_eq c w₁
  obtain ⟨answer, buffer, hfound⟩ := found_ok (ρ := ρ) (ε := ε) output
    (match w₁.device.get? c with
      | some connection => writeImage connection.routines output
      | none => .error (.lookup (.notFound address)))
  have himage := putImageOf_eq address c w₁ output
  rw [hfound] at himage
  refine (Flow.ensuring_ok himage (aside_eq hrelease)).trans ?_
  simp only []
  rw [seeDevice, Flow.bind_ok (Flow.see_apply _ w₁), Flow.bind_ok hrelease]
  exact (hfound _).symm

/-- A list has room for its addresses. -/
lemma length_listBytes_le (d : Device ρ) {n : Nat} (h : 16 ≤ n) :
    (listBytes (d.list ((n - 8) / 8))).length ≤ n := by
  have hfew : (d.list ((n - 8) / 8)).written.length ≤ (n - 8) / 8 := List.length_take_le _ _
  rw [listBytes, List.length_append, List.length_append, length_flatMap_le64]
  simp only [length_le32]
  omega

lemma list_eq (w : World ρ ε) (output : List UInt8) :
    list (w, output) = found output (Driver.list output w) := by
  rw [list, Driver.list, room, Flow.bind_ok (Flow.see_apply _ _)]
  by_cases hshort : output.length < 16
  · simp only [if_pos hshort]
    rfl
  · simp only [if_neg hshort]
    have hlisting : onDevice (fun d => (d.list ((output.length - 8) / 8), d)) w
        = (.ok (w.device.list ((output.length - 8) / 8)), w) := onDevice_eq w _
    have hfits := length_listBytes_le w.device (Nat.le_of_not_lt hshort)
    rw [Flow.bind_ok hlisting, Flow.bind_ok (aside_eq hlisting)]
    generalize w.device.list ((output.length - 8) / 8) = listing at hfits ⊢
    have hlength : 8 + (listing.written.flatMap le64).length = (listBytes listing).length := by
      rw [listBytes, List.length_append]
      rfl
    rw [hlength, show 8 = (le32 (UInt32.ofNat listing.available) ++ le32 0).length from rfl]
    exact put_put_eq' hfits _

/-! ### Calls -/

/-- What a request for a call is checked for before anything is done. -/
def accept (input : List UInt8) (length : Nat) : Except ControlError (CallRequest × Dispositions) :=
  match CallRequest.ofBytes? input with
  | none => .error (.invalidParameter .inputSize)
  | some request =>
    if request.address = 0 then .error (.invalidParameter .address)
    else match dispositionsOf request with
      | .error _ => .error (.invalidParameter .disposition)
      | .ok d =>
        if length < CallResponse.size then .error (.invalidParameter .outputSize)
        else .ok (request, d)

/-- The channel of a call. -/
def channelFor (d : Dispositions) (length : Nat) : Observer :=
  .channel (.make d (length - CallResponse.size))

variable {exec : Routines ρ ε} {input : List UInt8} {request : CallRequest} {d : Dispositions}

/-- A call that is not accepted is over. -/
lemma callRoutine_of_error (exec : Routines ρ ε) {why : ControlError}
    (h : accept input output.length = .error why) (w : World ρ ε) :
    Driver.callRoutine exec input output w = (.ok (.error why), w) ∧
      callRoutine exec input (w, output) = (.ok (.error why), w, output) := by
  revert h
  rw [accept, Driver.callRoutine, callRoutine, room]
  rcases CallRequest.ofBytes? input with - | request
  · rintro ⟨⟩
    exact ⟨rfl, rfl⟩
  by_cases haddress : request.address = 0
  · simp only [if_pos haddress]
    rintro ⟨⟩
    exact ⟨rfl, rfl⟩
  simp only [if_neg haddress]
  rcases dispositionsOf request with code | d
  · rintro ⟨⟩
    exact ⟨rfl, rfl⟩
  simp only []
  rw [Flow.bind_ok (Flow.see_apply _ _)]
  by_cases hshort : output.length < CallResponse.size
  · simp only [if_pos hshort]
    rintro ⟨⟩
    exact ⟨rfl, rfl⟩
  · rw [if_neg hshort]
    rintro ⟨⟩

/-- A call that is accepted gets a channel. -/
lemma callRoutine_of_ok (exec : Routines ρ ε)
    (h : accept input output.length = .ok (request, d)) (w : World ρ ε) :
    Driver.callRoutine exec input output w = (do
      match ← callAt exec request w.observers.items.size with
      | .error why => return .error why
      | .ok result =>
        let events ← takeEvents w.observers.items.size
        return .ok (.writing .success ((responseOf result events).bytes ++ events.bytes) output) :
      Act ρ ε (Except ControlError Completion)) (opening w (channelFor d output.length)) ∧
    callRoutine exec input (w, output) = (do
      match ← aside (callAt exec request w.observers.items.size) with
      | .error why => return .error why
      | .ok result =>
        let events ← aside (takeEvents w.observers.items.size)
        put CallResponse.size ⟨0, (responseOf result events).bytes⟩
        put output.length ⟨CallResponse.size, events.bytes⟩
        return .ok (.success, CallResponse.size + events.bytes.length) : Work ρ ε Answer)
        (opening w (channelFor d output.length), output) := by
  revert h
  rw [accept, Driver.callRoutine, callRoutine, room]
  rcases CallRequest.ofBytes? input with - | request'
  · rintro ⟨⟩
  by_cases haddress : request'.address = 0
  · simp only [if_pos haddress]
    rintro ⟨⟩
  simp only [if_neg haddress]
  rcases dispositionsOf request' with code | d'
  · rintro ⟨⟩
  simp only []
  rw [Flow.bind_ok (Flow.see_apply _ _)]
  by_cases hshort : output.length < CallResponse.size
  · simp only [if_pos hshort]
    rintro ⟨⟩
  · simp only [if_neg hshort]
    rintro ⟨⟩
    have hopen := newObserver_eq w (channelFor d output.length)
    exact ⟨Flow.bind_ok hopen, Flow.bind_ok (aside_eq hopen)⟩

lemma size_le_of_accept {length : Nat} (h : accept input length = .ok (request, d)) :
    CallResponse.size ≤ length := by
  rw [accept] at h
  split at h
  · cases h
  split at h
  · cases h
  split at h
  · cases h
  split at h
  · cases h
  · next hshort => exact Nat.le_of_not_lt hshort

/-- The channel of a call is new. -/
lemma hasRoom_opening (w : World ρ ε) (d : Dispositions) (length : Nat) :
    (opening w (channelFor d length)).HasRoom w.observers.items.size
      (length - CallResponse.size) :=
  ⟨_, Pool.get?_add_self _ _, .make _ _⟩

/-- The events of a call are taken out of its channel. -/
lemma takeEvents_eq {o : ObserverId} {capacity : Nat} {w : World ρ ε} (h : w.HasRoom o capacity) :
    ∃ (events : EventBuffer) (w' : World ρ ε), takeEvents o w = (.ok events, w') ∧
      events.bytes.length ≤ capacity := by
  obtain ⟨c, hc, hfits⟩ := h
  refine ⟨c.buffer, _, tell_eq hc _ _, ?_⟩
  rw [EventBuffer.bytes, Array.length_toList]
  exact hfits.size_le

lemma callRoutine_eq (hexec : ∀ routine, Confined (exec routine))
    (hothers : Confined exec.others) (input : List UInt8)
    (w : World ρ ε) (output : List UInt8) :
    callRoutine exec input (w, output) = found output (Driver.callRoutine exec input output w) := by
  rcases haccept : accept input output.length with why | ⟨request, d⟩
  · obtain ⟨hcontrol, hinPlace⟩ := callRoutine_of_error exec haccept w
    rw [hcontrol, hinPlace]
    rfl
  obtain ⟨hcontrol, hinPlace⟩ := callRoutine_of_ok exec haccept w
  rw [hcontrol, hinPlace]
  have hroom := hasRoom_opening w d output.length
  rcases hcall : callAt exec request w.observers.items.size
    (opening w (channelFor d output.length)) with ⟨stop | why | result, w₂⟩
  · rw [Flow.bind_error hcall, Flow.bind_error (aside_eq hcall)]
    rfl
  · rw [Flow.bind_ok hcall, Flow.bind_ok (aside_eq hcall)]
    rfl
  · -- the routine came out, and the events in the channel have room behind the response
    obtain ⟨events, w₃, htake, hfit⟩ := takeEvents_eq
      (Confined.closed.callAt hexec hothers request _ _ _ _ _ w₂ hroom (Flow.attempt_ok hcall))
    have hsize := size_le_of_accept haccept
    have hresponse := CallResponse.length_bytes (responseOf result events)
    have hall : ((responseOf result events).bytes ++ events.bytes).length ≤ output.length := by
      rw [List.length_append]
      omega
    rw [Flow.bind_ok hcall, Flow.bind_ok (aside_eq hcall)]
    simp only []
    rw [Flow.bind_ok htake, Flow.bind_ok (aside_eq htake), ← hresponse, ← List.length_append]
    exact put_put_eq hall _

/-- What a request does to its buffer piece by piece is what `Driver.control` says of it. -/
theorem control_eq (hexec : ∀ routine, Confined (exec routine)) (hothers : Confined exec.others)
    (code : UInt32) (input : List UInt8) (w : World ρ ε) (output : List UInt8) :
    control exec code input (w, output)
      = found output (Driver.control exec code input output w) := by
  rw [control, Driver.control]
  rcases ControlCode.ofCode? code with - | ⟨_ | _ | _⟩
  · rfl
  · exact query_eq input w output
  · exact list_eq w output
  · exact callRoutine_eq hexec hothers input w output

/-! ### What is written -/

/-- A request that was completed has written at most the buffer, and has left what follows. -/
structure Spares (output : List UInt8) (done : Completion) : Prop where
  written_le : done.written ≤ output.length
  length_eq : done.output.length = output.length
  drop_eq : done.output.drop done.written = output.drop done.written

lemma Spares.writing {bytes : List UInt8} (h : bytes.length ≤ output.length)
    (status : ControlStatus) : Spares output (.writing status bytes output) :=
  ⟨h, length_writing h status, drop_writing status bytes output⟩

lemma Spares.writeImage {k : Keyed ρ} {done : Completion} (h : writeImage k output = .ok done) :
    Spares output done := by
  rw [Driver.writeImage] at h
  by_cases hsize : k.size ≤ output.length
  · rw [Image.writeInto_eq k hsize] at h
    obtain rfl := Except.ok.inj h
    have hspares : Spares output (.writing .success (Image.image k) output) :=
      .writing (by rwa [Image.length_image]) _
    rwa [Completion.writing, Image.length_image] at hspares
  · rw [Image.writeInto, if_pos (Nat.lt_of_not_le hsize)] at h
    simp only [] at h
    split at h
    · cases h
    · next hshort =>
      obtain rfl := Except.ok.inj h
      exact .writing (Nat.le_of_not_lt hshort) _

lemma spares_query {done : Completion}
    (h : Driver.query input output w = (.ok (.ok done), w')) : Spares output done := by
  revert h
  rw [Driver.query]
  rcases word64 0 (input.take 8).toArray with - | address <;> intro h
  · cases h
  · obtain ⟨found, w₁, -, h⟩ := Flow.of_bind_ok h
    cases found with
    | error why => cases h
    | ok c =>
      obtain ⟨written, w₂, hsee, h⟩ := Flow.of_bind_ok h
      obtain ⟨u, w₃, -, h⟩ := Flow.of_bind_ok h
      obtain rfl : written = .ok done := Except.ok.inj (Prod.mk.inj h).1
      have hwritten := Except.ok.inj (Prod.mk.inj hsee).1
      simp only [] at hwritten
      split at hwritten
      · exact .writeImage hwritten
      · cases hwritten

lemma spares_list {done : Completion}
    (h : Driver.list output w = (.ok (.ok done), w')) : Spares output done := by
  rw [Driver.list] at h
  split at h
  · cases h
  · next hshort =>
    have hlisting : onDevice (fun d => (d.list ((output.length - 8) / 8), d)) w
        = (.ok (w.device.list ((output.length - 8) / 8)), w) := onDevice_eq w _
    replace h := (Flow.bind_ok hlisting).symm.trans h
    obtain rfl := Except.ok.inj (Except.ok.inj (Prod.mk.inj h).1)
    exact .writing (length_listBytes_le w.device (Nat.le_of_not_lt hshort)) _

lemma spares_callRoutine (hexec : ∀ routine, Confined (exec routine))
    (hothers : Confined exec.others) {done : Completion}
    (h : Driver.callRoutine exec input output w = (.ok (.ok done), w')) : Spares output done := by
  rcases haccept : accept input output.length with why | ⟨request, d⟩
  · rw [(callRoutine_of_error exec haccept w).1] at h
    cases h
  rw [(callRoutine_of_ok exec haccept w).1] at h
  obtain ⟨called, w₂, hcall, h⟩ := Flow.of_bind_ok h
  cases called with
  | error why => cases h
  | ok result =>
    obtain ⟨events, w₃, htake, hfit⟩ := takeEvents_eq
      (Confined.closed.callAt hexec hothers request _ _ _ _ _ w₂ (hasRoom_opening w d output.length)
        (Flow.attempt_ok hcall))
    have hsize := size_le_of_accept haccept
    replace h := (Flow.bind_ok htake).symm.trans h
    obtain rfl := Except.ok.inj (Except.ok.inj (Prod.mk.inj h).1)
    refine .writing ?_ _
    rw [List.length_append, CallResponse.length_bytes]
    omega

/-- Whatever was asked for, no more is written than the answer says, and that is within the
buffer. -/
lemma spares_control (hexec : ∀ routine, Confined (exec routine)) (hothers : Confined exec.others)
    {code : UInt32} {done : Completion}
    (h : Driver.control exec code input output w = (.ok (.ok done), w')) : Spares output done := by
  revert h
  rw [Driver.control]
  rcases ControlCode.ofCode? code with - | ⟨_ | _ | _⟩
  · rintro ⟨⟩
  · exact spares_query
  · exact spares_list
  · exact spares_callRoutine hexec hothers

/-! ### Requests that are turned away -/

/-- A request that fails for this reason has not come as far as the thread of a call. -/
def TurnsAway : ControlError → Prop
  | .call (.filament _) => False
  | _ => True

/-- Why a driver does not call a routine for a thread, if it does not. -/
def refusal? (device : Device ρ) (c : ConnectionId) (fixture routine : UInt16) : Option CallError :=
  match device.get? c with
  | none => some .unavailable
  | some k =>
    if !k.available then some .unavailable
    else match k.routines.routine? fixture routine with
      | none => some (.noRoutine fixture routine)
      | some _ => none

/-- What a driver does for a call once it holds its unload lock. -/
def protectedCall (exec : Routines ρ ε) (c : ConnectionId) (fixture routine : UInt16)
    (channel : ObserverId) (value : UInt64) : Act ρ ε (Except CallError CallResult) := do
  match ← seeDevice (·.get? c) with
  | none => return .error .unavailable
  | some connection =>
    if !connection.available then return .error .unavailable
    else match connection.routines.routine? fixture routine with
      | none => return .error (.noRoutine fixture routine)
      | some r => callProtected exec connection.registry connection.joinLimit r channel value

section

variable {c : ConnectionId} {fixture routine : UInt16} {channel : ObserverId} {value : UInt64}
  {why : CallError}

/-- The unload lock has no part in why a routine is not called. -/
lemma refusal?_enter (device : Device ρ) (c : ConnectionId) (fixture routine : UInt16) :
    refusal? (device.modify c .enter) c fixture routine = refusal? device c fixture routine := by
  have hget : (device.modify c .enter).get? c = (device.get? c).map .enter :=
    Pool.get?_modify_same _ _ _
  rw [refusal?, refusal?, hget]
  cases device.get? c <;> rfl

/-- A call that is refused is over, whatever the routines do. -/
lemma protectedCall_of_refusal (h : refusal? w.device c fixture routine = some why) :
    protectedCall exec c fixture routine channel value w = (.ok (.error why), w) := by
  revert h
  have hsee : seeDevice (·.get? c) w = (.ok (w.device.get? c), w) := rfl
  rw [protectedCall, Flow.bind_ok hsee, refusal?]
  rcases w.device.get? c with - | k
  · rintro ⟨⟩
    rfl
  by_cases havailable : k.available = true
  · simp only [havailable]
    rcases k.routines.routine? fixture routine with - | r
    · rintro ⟨⟩
      rfl
    · rintro ⟨⟩
  · simp only [havailable]
    rintro ⟨⟩
    rfl

/-- A routine that is called and not run has no filament to run in. -/
lemma of_callProtected_error {registry : RegistryId} {limit : Duration} {r : ρ}
    (h : callProtected exec registry limit r channel value w = (.ok (.error why), w')) :
    ∃ e, why = .filament e := by
  rw [callProtected] at h
  obtain ⟨f, w₁, -, h⟩ := Flow.of_bind_ok h
  obtain ⟨u, w₂, -, h⟩ := Flow.of_bind_ok h
  obtain ⟨bound, w₃, -, h⟩ := Flow.of_bind_ok h
  cases bound with
  | error e => exact ⟨e, by cases h; rfl⟩
  | ok u =>
    obtain ⟨i, w₄, -, h⟩ := Flow.of_bind_ok h
    obtain ⟨entry, w₅, -, h⟩ := Flow.of_bind_ok h
    obtain ⟨caught, w₆, -, h⟩ := Flow.of_bind_ok h
    obtain ⟨u, w₇, -, h⟩ := Flow.of_bind_ok h
    obtain ⟨u, w₈, -, h⟩ := Flow.of_bind_ok h
    obtain ⟨u, w₉, -, h⟩ := Flow.of_bind_ok h
    obtain ⟨o, w₁₀, -, h⟩ := Flow.of_bind_ok h
    obtain ⟨v, w₁₁, -, h⟩ := Flow.of_bind_ok h
    obtain ⟨u, w₁₂, -, h⟩ := Flow.of_bind_ok h
    obtain ⟨u, w₁₃, -, h⟩ := Flow.of_bind_ok h
    cases h

lemma of_protectedCall_error
    (h : protectedCall exec c fixture routine channel value w = (.ok (.error why), w')) :
    (∃ e, why = .filament e) ∨ refusal? w.device c fixture routine = some why := by
  revert h
  have hsee : seeDevice (·.get? c) w = (.ok (w.device.get? c), w) := rfl
  rw [protectedCall, Flow.bind_ok hsee, refusal?]
  rcases w.device.get? c with - | k
  · rintro ⟨⟩
    exact .inr rfl
  by_cases havailable : k.available = true
  · simp only [havailable]
    rcases k.routines.routine? fixture routine with - | r
    · rintro ⟨⟩
      exact .inr rfl
    · exact fun h => .inl (of_callProtected_error h)
  · simp only [havailable]
    rintro ⟨⟩
    exact .inr rfl

lemma modify_eq (c : ConnectionId) (f : Connection ρ → Connection ρ) (w : World ρ ε) :
    modify c f w = (.ok (), { w with device := w.device.modify c f }) := rfl

/-- A call that is refused leaves the world as it was. -/
lemma call_of_refusal (h : refusal? w.device c fixture routine = some why) :
    call exec c fixture routine channel value w = (.ok (.error why), w) := by
  let entered := { w with device := w.device.modify c .enter }
  have hrefused : protectedCall exec c fixture routine channel value entered
      = (.ok (.error why), entered) :=
    protectedCall_of_refusal ((refusal?_enter w.device c fixture routine).trans h)
  refine (Flow.bind_ok (modify_eq c .enter w)).trans
    ((Flow.ensuring_ok hrefused (modify_eq c .leave _)).trans ?_)
  rw [Device.leave_enter]

lemma of_call_error
    (h : call exec c fixture routine channel value w = (.ok (.error why), w')) :
    (∃ e, why = .filament e) ∨ refusal? w.device c fixture routine = some why := by
  obtain ⟨u, w₁, henter, h⟩ := Flow.of_bind_ok h
  obtain ⟨w₂, hcall, -⟩ := Flow.of_ensuring_ok h
  cases henter
  rw [← refusal?_enter]
  exact of_protectedCall_error hcall

end

/-- What is not found leaves the world as it was. -/
lemma lookup_of_error {address : UInt64} {why : TableError}
    (h : (w.device.lookup address).1 = .error why) : lookup address w = (.ok (.error why), w) := by
  have hdevice := Device.lookup_error_eq (Prod.ext h rfl)
  rw [lookup_eq, h]
  exact congrArg (fun device => (Except.ok (Except.error why), { w with device })) hdevice

/-- What is found is held, and others hold it too. -/
lemma lookup_of_ok {address : UInt64} {c : ConnectionId}
    (h : (w.device.lookup address).1 = .ok c) :
    w.device.isLive c = true ∧
      lookup address w = (.ok (.ok c), { w with device := w.device.modify c .retain }) := by
  obtain ⟨hlive, hdevice⟩ := Device.lookup_ok_eq (Prod.ext h rfl)
  rw [lookup_eq, h]
  exact ⟨hlive, congrArg (fun device => (Except.ok (Except.ok c), { w with device })) hdevice⟩

/-- A request for a call that is turned away leaves the world as it was, whatever the routines do. -/
lemma callAt_of_error {r : CallRequest} {channel : ObserverId} {why : ControlError}
    (h : callAt exec r channel w = (.ok (.error why), w')) (hturns : TurnsAway why)
    (exec' : Routines ρ ε) : callAt exec' r channel w = (.ok (.error why), w) ∧ w' = w := by
  rw [callAt] at h ⊢
  rcases hfound : (w.device.lookup r.address).1 with e | c
  · have hlookup := lookup_of_error hfound
    rw [Flow.bind_ok hlookup] at h ⊢
    cases h
    exact ⟨rfl, rfl⟩
  obtain ⟨hlive, hlookup⟩ := lookup_of_ok hfound
  rw [Flow.bind_ok hlookup] at h ⊢
  obtain ⟨called, w₂, hcall, h⟩ := Flow.of_bind_ok h
  cases called with
  | ok result => cases h
  | error e =>
    cases h
    obtain ⟨w₃, hrun, hrelease⟩ := Flow.of_ensuring_ok hcall
    rcases of_call_error hrun with ⟨e', rfl⟩ | hrefusal
    · exact hturns.elim
    · -- the world is that of the lookup, and the reference is given back
      have hback : release c { w with device := w.device.modify c .retain } = (.ok (), w) := by
        rw [release_eq, Device.release_retain hlive]
      cases hrun.symm.trans (call_of_refusal hrefusal)
      cases hrelease.symm.trans hback
      exact ⟨Flow.bind_ok (Flow.ensuring_ok (call_of_refusal hrefusal) hback), rfl⟩

/-- A query leaves the world as it was. -/
lemma query_snd (input output : List UInt8) (w : World ρ ε) :
    (Driver.query input output w).2 = w := by
  rw [Driver.query]
  rcases word64 0 (input.take 8).toArray with - | address
  · rfl
  rcases hfound : (w.device.lookup address).1 with why | c
  · simp only []
    rw [Flow.bind_ok (lookup_of_error hfound)]
    rfl
  · obtain ⟨hlive, hlookup⟩ := lookup_of_ok hfound
    simp only []
    rw [Flow.bind_ok hlookup]
    simp only []
    rw [seeDevice, Flow.bind_ok (Flow.see_apply _ _), Flow.bind_ok (release_eq c _),
      Device.release_retain hlive]
    rfl

/-- A list leaves the world as it was. -/
lemma list_snd (output : List UInt8) (w : World ρ ε) : (Driver.list output w).2 = w := by
  rw [Driver.list]
  split
  · rfl
  · have hlisting : onDevice (fun d => (d.list ((output.length - 8) / 8), d)) w
        = (.ok (w.device.list ((output.length - 8) / 8)), w) := onDevice_eq w _
    exact congrArg Prod.snd (Flow.bind_ok hlisting)

/-- Two worlds differ at most in an observer that the second has at the end. -/
def AtMostOpening (w w' : World ρ ε) : Prop := w' = w ∨ ∃ x, w' = opening w x

/-- A call that is turned away is turned away whatever the routines do. -/
lemma callRoutine_of_turnsAway {why : ControlError}
    (h : Driver.callRoutine exec input output w = (.ok (.error why), w')) (hturns : TurnsAway why)
    (exec' : Routines ρ ε) :
    callRoutine exec' input (w, output) = (.ok (.error why), w', output) ∧ AtMostOpening w w' := by
  rcases haccept : accept input output.length with e | ⟨request, d⟩
  · rw [(callRoutine_of_error exec haccept w).1] at h
    cases h
    exact ⟨(callRoutine_of_error exec' haccept w).2, .inl rfl⟩
  · rw [(callRoutine_of_ok exec haccept w).1] at h
    rw [(callRoutine_of_ok exec' haccept w).2]
    obtain ⟨called, w₂, hcall, h⟩ := Flow.of_bind_ok h
    cases called with
    | error e =>
      cases h
      obtain ⟨hcall', rfl⟩ := callAt_of_error hcall hturns exec'
      exact ⟨Flow.bind_ok (aside_eq hcall'), .inr ⟨_, rfl⟩⟩
    | ok result =>
      obtain ⟨events, w₃, -, h⟩ := Flow.of_bind_ok h
      cases h

/-- A request that is turned away does nothing but to make a channel, whatever the routines do. -/
lemma control_of_turnsAway {code : UInt32} {why : ControlError}
    (h : Driver.control exec code input output w = (.ok (.error why), w')) (hturns : TurnsAway why)
    (exec' : Routines ρ ε) :
    control exec' code input (w, output) = (.ok (.error why), w', output) ∧ AtMostOpening w w' := by
  revert h
  rw [Driver.control, control]
  rcases ControlCode.ofCode? code with - | ⟨_ | _ | _⟩
  · rintro ⟨⟩
    exact ⟨rfl, .inl rfl⟩
  · intro h
    exact ⟨(query_eq input w output).trans (congrArg (found output) h),
      .inl ((congrArg Prod.snd h).symm.trans (query_snd input output w))⟩
  · intro h
    exact ⟨(list_eq w output).trans (congrArg (found output) h),
      .inl ((congrArg Prod.snd h).symm.trans (list_snd output w))⟩
  · exact fun h => callRoutine_of_turnsAway h hturns exec'

/-! ### What one who lent a buffer finds -/

/-- A request that came to this, in a world that was `w` and with a buffer that held `output`, has
touched only what it reports. -/
structure Touches (exec : Routines ρ ε) (code : UInt32) (input : List UInt8) (w : World ρ ε)
    (output : List UInt8) (r : Except Stop Answer) (w' : World ρ ε) (buffer : List UInt8) :
    Prop where
  length_eq : buffer.length = output.length
  /-- If it failed or did not return, nothing was written. -/
  kept : (∀ status n, r ≠ .ok (.ok (status, n))) → buffer = output
  /-- If it returned how much was written, nothing else was. -/
  written : ∀ status n, r = .ok (.ok (status, n)) →
    n ≤ output.length ∧ buffer.drop n = output.drop n
  /-- If it was turned away, the world is what it was but for a channel, and it would have come to
  the same whatever the routines do. -/
  turnedAway : ∀ why, r = .ok (.error why) → TurnsAway why → AtMostOpening w w' ∧
    ∀ exec' : Routines ρ ε, control exec' code input (w, output) = (r, w', buffer)

/-- Every request touches only what it reports, if the routines leave the channels of calls within
their capacity; and nothing is ever copied out of range. -/
theorem control_touches (hexec : ∀ routine, Confined (exec routine)) (hothers : Confined exec.others)
    (code : UInt32) (input : List UInt8) (w : World ρ ε) (output : List UInt8) :
    ∃ r w' buffer, control exec code input (w, output) = (r, w', buffer) ∧
      (r, w', buffer) = found output (Driver.control exec code input output w) ∧
      Touches exec code input w output r w' buffer := by
  have heq := control_eq hexec hothers code input w output
  rcases h : Driver.control exec code input output w with ⟨stop | why | done, w'⟩
  · rw [h] at heq
    exact ⟨_, _, _, heq, rfl, rfl, fun _ => rfl, nofun, nofun⟩
  · rw [h] at heq
    refine ⟨_, _, _, heq, rfl, rfl, fun _ => rfl, nofun, ?_⟩
    rintro why ⟨⟩ hturns
    exact ⟨(control_of_turnsAway h hturns exec).2, fun exec' =>
      (control_of_turnsAway h hturns exec').1⟩
  · rw [h] at heq
    have hspares := spares_control hexec hothers h
    refine ⟨_, _, _, heq, rfl, hspares.length_eq, fun hnone => absurd rfl (hnone _ _), ?_, nofun⟩
    rintro status n ⟨⟩
    exact ⟨hspares.written_le, hspares.drop_eq⟩

/-- A message through the sink of a driver is confined. -/
lemma confined_log (s : Sink) (message : String) : Confined (s.log message : Act ρ ε Unit) :=
  (Lawful.closed.sink s ⟨"", "", 0⟩ message 0 0 .ordinary 0).2.2.2.1.confined

/-- A routine that logs something. -/
def packs : Routines Unit Unit := ⟨fun _ => sink.log "packed", return ()⟩

/-- A routine that logs something has one record written behind the response, and the rest of the
buffer is as it was. -/
theorem control_touches_log : ∃ w' buffer,
    control packs ControlCode.call.code errandRequest.bytes
      (depotWorld (.ofSeconds 60) (), List.replicate 124 255)
        = (.ok (.ok (.success, 64)), w', buffer) ∧
    buffer.length = 124 ∧ buffer.drop 64 = List.replicate 60 255 := by
  have hexec (routine : Unit) : Confined (packs routine) := confined_log sink "packed"
  have hothers : Confined packs.others := Confined.closed.pure ()
  obtain ⟨r, w', buffer, heq, -, htouches⟩ := control_touches hexec hothers ControlCode.call.code
    errandRequest.bytes (depotWorld (.ofSeconds 60) ()) (List.replicate 124 255)
  have hr : (control packs ControlCode.call.code errandRequest.bytes
      (depotWorld (.ofSeconds 60) (), List.replicate 124 255)).1 = .ok (.ok (.success, 64)) := by
    decide +kernel
  rw [heq] at hr
  cases hr
  refine ⟨w', buffer, heq, ?_, ?_⟩
  · rw [htouches.length_eq, List.length_replicate]
  · rw [(htouches.written _ _ rfl).2, List.drop_replicate]

end Testbench.Driver.InPlace
