import AprsWx.Lib.Prog
import AprsWx.Truncation
import AprsWx.WeatherText
import AprsWx.LineStream
import AprsWx.Login
import AprsWx.PeerInfo
import AprsWx.Descriptors
import AprsWx.WeatherReport
import AprsWx.Pushes
import AprsWx.Symbols
import AprsWx.Bodies
import AprsWx.Monitor
import AprsWx.StatLine
import AprsWx.Mean
import AprsWx.Weight
import AprsWx.Fields
import AprsWx.Coordinates
import AprsWx.Divisors
import AprsWx.FirstReport
import AprsWx.Configuration
import AprsWx.DewPoint
import AprsWx.Shift
import AprsWx.WeatherLoop
import AprsWx.Turns
import AprsWx.BodyText
import AprsWx.LoginText
import AprsWx.Publication
import AprsWx.Rotation
import AprsWx.SysMonitor
import AprsWx.DhtSample
import AprsWx.Dhtxx
import AprsWx.Dht22
import AprsWx.Sockets
