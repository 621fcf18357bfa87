import WheelDisplay.Lib.StepRun
import WheelDisplay.Lib.FixedPoint
import WheelDisplay.Nlms.Filter
import WheelDisplay.Nlms.Power
import WheelDisplay.Nlms.Descent
import WheelDisplay.Audio.Endpoint
import WheelDisplay.Audio.SampleRate
import WheelDisplay.Ks0108.Bus
import WheelDisplay.Ks0108.Handshake
import WheelDisplay.Usb.AudioClass
import WheelDisplay.Usb.HidClass
import WheelDisplay.Usb.Standard
import WheelDisplay.Usb.ControlRequest
import WheelDisplay.Lcd.Label
import WheelDisplay.Lcd.Message
import WheelDisplay.Lcd.Draw
import WheelDisplay.Lcd.Frame
import WheelDisplay.Lcd.Content
import WheelDisplay.Firmware.MainLoop
import WheelDisplay.Firmware.VendorWrite
import WheelDisplay.Firmware.ButtonEdge
import WheelDisplay.Firmware.UpdatePass
import WheelDisplay.Ks0108.Panel
import WheelDisplay.Lcd.Blit
import WheelDisplay.Lcd.Clear
import WheelDisplay.Lcd.Number
import WheelDisplay.Lcd.Redraw
import WheelDisplay.Lcd.TimeText
import WheelDisplay.Lib.Accumulate
import WheelDisplay.Mcp3204.NoiseFloor
import WheelDisplay.Nlms.Average
import WheelDisplay.Nlms.Coefficient
import WheelDisplay.Nlms.Drive
import WheelDisplay.Usb.AudioBuffer
import WheelDisplay.Ks0108.Transfer
import WheelDisplay.Ks0108.Discipline
import WheelDisplay.Lcd.ClearRange
import WheelDisplay.Lcd.Gear
import WheelDisplay.Lcd.Remainder
import WheelDisplay.Firmware.PhantomButtons
import WheelDisplay.Firmware.Reports
import WheelDisplay.Firmware.Rotation
import WheelDisplay.Firmware.SampleStream
import WheelDisplay.Firmware.Settled
import WheelDisplay.Lib.Packets
import WheelDisplay.Usb.ControlStream
import WheelDisplay.Firmware.GearShown
import WheelDisplay.Firmware.AudioPath
import WheelDisplay.Firmware.LapShown
