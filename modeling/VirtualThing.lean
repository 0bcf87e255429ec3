import VirtualThing.Storage.Store
import VirtualThing.Storage.World
import VirtualThing.Headers
import VirtualThing.Properties.DataItem
import VirtualThing.Properties.Loader
import VirtualThing.Properties.Updater
import VirtualThing.Properties.Credentials
import VirtualThing.Device.Device
import VirtualThing.Properties.Theorems.DataItem
import VirtualThing.Properties.Theorems.Loader
import VirtualThing.Device.Theorems
import VirtualThing.Properties.Theorems.CreateDevice
import VirtualThing.Storage.Frame
import VirtualThing.Storage.Handles
import VirtualThing.Storage.Effect
import VirtualThing.Storage.Attempts
import VirtualThing.Properties.Theorems.Updater
import VirtualThing.Properties.Theorems.UpdateEffect
import VirtualThing.Properties.Theorems.RoundTrip
import VirtualThing.Properties.Theorems.Credentials
import VirtualThing.Properties.Theorems.Reload
import VirtualThing.Properties.Theorems.Sync
import VirtualThing.Properties.Theorems.Handles
import VirtualThing.Properties.Theorems.ErrorContract
import VirtualThing.Properties.Theorems.UpdateRun
import VirtualThing.Properties.Theorems.Boot
import VirtualThing.Properties.Theorems.FailedBoot
import VirtualThing.Device.Load
import VirtualThing.Properties.Theorems.Session
import VirtualThing.Device.Agreement
