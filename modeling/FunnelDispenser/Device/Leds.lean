import FunnelDispenser.Device.Board

/-!
# LEDs

The LED routines write pins of the same board in one pass of `loop()`; the
clock values each of them reads are arguments.
-/

namespace FunnelDispenser.Device

def controlLed (pin : Nat) (turnOn : Bool) (outputs : Outputs) : Outputs :=
  outputs.digitalWrite pin turnOn

/-- `InitLEDs`; `currentMillis` is the clock it reads. -/
def initLeds (useKeepAliveLed : Bool) (ledPin : Nat) (interval : BitVec 32)
    (currentMillis : BitVec 32) (outputs : Outputs) : Outputs :=
  let cleared :=
    { outputs with
      activeKeepAliveLed := useKeepAliveLed
      keepAliveLedPin := ledPin
      keepAlivePreviousMillis := 0
      keepAliveLedInterval := interval
      msec := currentMillis
      redLedDuration := 0
      greenLedDuration := 0
      blueLedDuration := 0 }
  ((cleared.digitalWrite redLed false).digitalWrite blueLed
    false).digitalWrite greenLed false

/-- Blink the keep-alive LED every half interval. -/
def keepAliveLed (currentMillis : BitVec 32) (outputs : Outputs) : Outputs :=
  if outputs.activeKeepAliveLed then
    if currentMillis - outputs.keepAlivePreviousMillis ≥
        outputs.keepAliveLedInterval / 2 then
      let toggled :=
        { outputs with
          keepAlivePreviousMillis := currentMillis
          ledState := !outputs.ledState }
      toggled.digitalWrite toggled.keepAliveLedPin toggled.ledState
    else
      outputs
  else
    outputs

/-- The countdown of one LED: its next duration and its pin level. -/
def countDown (duration timeLapsed : BitVec 32) : BitVec 32 × Bool :=
  if 0 < duration.toInt then
    (duration - timeLapsed, true)
  else
    (0, false)

/-- `LedWatch` reads the clock when it starts and again when it ends. -/
def ledWatch (startMillis endMillis : BitVec 32) (outputs : Outputs) :
    Outputs :=
  let timeLapsed := startMillis - outputs.msec
  let (red, redLevel) := countDown outputs.redLedDuration timeLapsed
  let (green, greenLevel) := countDown outputs.greenLedDuration timeLapsed
  let (blue, blueLevel) := countDown outputs.blueLedDuration timeLapsed
  let written :=
    ((outputs.digitalWrite redLed redLevel).digitalWrite greenLed
      greenLevel).digitalWrite blueLed blueLevel
  { written with
    redLedDuration := red
    greenLedDuration := green
    blueLedDuration := blue
    msec := endMillis }

end FunnelDispenser.Device
